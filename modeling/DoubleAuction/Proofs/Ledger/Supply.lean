import DoubleAuction.Ledger.Refusal

/-! # Balances and supply

A transfer moves units between two balances and creates none: what a token's books say after `move`
is `balance_move`, and the supply is unchanged because the sender's balance covers the amount and
the recipient's balance can take it. Only `issue` adds to the supply. Any two holders together hold
at most the supply, which bounds what a recipient can be asked to take.
-/

namespace DoubleAuction

namespace AddressMap

variable {α : Type u}

/-- The sum of the weights of all values. -/
def total (weigh : α → Nat) (map : AddressMap α) : Nat :=
  sumOver (fun entry => weigh entry.2) map.entries

/-- The weight of the value that a list of entries gives to an address. -/
def weightAt (weigh : α → Nat) (key : Address) (entries : List (Address × α)) : Nat :=
  ((lookup key entries).map weigh).getD 0

/-- Placing a value adds its weight and takes away the weight of the value it replaces. -/
theorem sumOver_place (weigh : α → Nat) (key : Address) (value : α) {entries : List (Address × α)}
    (sorted : entries.Pairwise fun earlier later => earlier.1 < later.1) :
    sumOver (fun entry => weigh entry.2) (place key value entries) + weightAt weigh key entries =
      sumOver (fun entry => weigh entry.2) entries + weigh value := by
  induction entries with
  | nil => simp [place, weightAt, lookup]
  | cons head rest ih =>
    obtain ⟨below, tail⟩ := List.pairwise_cons.mp sorted
    simp only [place]
    split
    case isTrue less =>
      have absent : lookup key (head :: rest) = none := by
        apply lookup_eq_none
        intro entry member
        rcases List.mem_cons.mp member with rfl | there
        · exact less
        · exact Address.lt_trans less (below entry there)
      simp only [weightAt, absent, Option.map_none, Option.getD_none, sumOver_cons]
      omega
    case isFalse =>
      split
      case isTrue same =>
        simp only [weightAt, lookup, same, ↓reduceIte, Option.map_some, Option.getD_some,
          sumOver_cons]
        omega
      case isFalse ne =>
        have later := ih tail
        simp only [weightAt] at later
        simp only [weightAt, lookup, if_neg (Ne.symm ne), sumOver_cons]
        omega

theorem total_insert (weigh : α → Nat) (map : AddressMap α) (key : Address) (value : α) :
    (map.insert key value).total weigh + ((map.find? key).map weigh).getD 0 =
      map.total weigh + weigh value :=
  sumOver_place weigh key value map.sorted

theorem weightAt_le_sumOver (weigh : α → Nat) (key : Address) (entries : List (Address × α)) :
    weightAt weigh key entries ≤ sumOver (fun entry => weigh entry.2) entries := by
  induction entries with
  | nil => exact Nat.le_refl 0
  | cons head rest ih =>
    simp only [weightAt, lookup, sumOver_cons] at ih ⊢
    split
    · simp only [Option.map_some, Option.getD_some]
      omega
    · omega

/-- Two addresses together weigh at most the total. -/
theorem weightAt_add_weightAt_le_sumOver (weigh : α → Nat) {key other : Address} (ne : key ≠ other)
    (entries : List (Address × α)) :
    weightAt weigh key entries + weightAt weigh other entries ≤
      sumOver (fun entry => weigh entry.2) entries := by
  induction entries with
  | nil => exact Nat.le_refl 0
  | cons head rest ih =>
    have first := weightAt_le_sumOver weigh key rest
    have second := weightAt_le_sumOver weigh other rest
    simp only [weightAt, lookup, sumOver_cons] at first second ih ⊢
    by_cases here : head.1 = key
    · have elsewhere : head.1 ≠ other := fun same => ne (here.symm.trans same)
      simp only [if_pos here, if_neg elsewhere, Option.map_some, Option.getD_some]
      omega
    · by_cases there : head.1 = other
      · simp only [if_neg here, if_pos there, Option.map_some, Option.getD_some]
        omega
      · simp only [if_neg here, if_neg there]
        omega

end AddressMap

namespace Token

theorem balance_toNat (token : Token) (owner : Address) :
    (token.balance owner).toNat = ((token.balances.find? owner).map BitVec.toNat).getD 0 := by
  unfold balance
  cases token.balances.find? owner <;> rfl

theorem balance_setBalance (token : Token) (owner other : Address) (amount : Amount) :
    (token.setBalance owner amount).balance other =
      if owner = other then amount else token.balance other := by
  simp only [balance, setBalance, AddressMap.find?_insert]
  split <;> rfl

theorem totalSupply_setBalance (token : Token) (owner : Address) (amount : Amount) :
    (token.setBalance owner amount).totalSupply + (token.balance owner).toNat =
      token.totalSupply + amount.toNat := by
  rw [balance_toNat]
  exact AddressMap.total_insert BitVec.toNat token.balances owner amount

/-- Two holders together hold at most the supply. -/
theorem balance_add_balance_le_totalSupply (token : Token) {owner other : Address}
    (ne : owner ≠ other) :
    (token.balance owner).toNat + (token.balance other).toNat ≤ token.totalSupply := by
  rw [balance_toNat, balance_toNat]
  exact AddressMap.weightAt_add_weightAt_le_sumOver BitVec.toNat ne token.balances.entries

@[simp] theorem balance_record (token : Token) (sender recipient owner : Address) (amount : Amount)
    (success : Bool) :
    (token.record sender recipient amount success).balance owner = token.balance owner := rfl

/-- What every address holds after a move. -/
theorem balance_move (token : Token) (sender recipient owner : Address) (amount : Amount) :
    (token.move sender recipient amount).balance owner =
      if sender = recipient then token.balance owner
      else if owner = recipient then token.balance owner + amount
      else if owner = sender then token.balance owner - amount
      else token.balance owner := by
  unfold move
  split
  case isTrue => rfl
  case isFalse ne =>
    simp only [balance_setBalance]
    by_cases atRecipient : owner = recipient
    · subst atRecipient
      simp [ne]
    · by_cases atSender : owner = sender
      · subst atSender
        simp [ne, Ne.symm ne]
      · simp [Ne.symm atRecipient, Ne.symm atSender, atRecipient, atSender]

theorem address_move (token : Token) (sender recipient : Address) (amount : Amount) :
    (token.move sender recipient amount).address = token.address := by
  unfold move
  split <;> rfl

/-- Moving an amount and moving it back changes no balance. -/
theorem balance_move_move (token other : Token) (sender recipient owner : Address) (amount : Amount)
    (same : ∀ holder,
      other.balance holder = (token.move sender recipient amount).balance holder) :
    (other.move recipient sender amount).balance owner = token.balance owner := by
  rw [balance_move, same, balance_move]
  by_cases self : sender = recipient
  · simp [self]
  · by_cases atRecipient : owner = recipient
    · subst atRecipient
      rw [if_neg (Ne.symm self), if_neg (Ne.symm self), if_pos rfl, if_neg self, if_pos rfl]
      exact BitVec.add_sub_cancel _ _
    · by_cases atSender : owner = sender
      · subst atSender
        rw [if_neg (Ne.symm self), if_pos rfl, if_neg self, if_neg self, if_pos rfl]
        exact BitVec.sub_add_cancel _ _
      · simp [self, Ne.symm self, atRecipient, atSender]

section Sendable

variable {token : Token} {sender recipient : Address} {amount : Amount}

theorem canSend_iff :
    token.canSend sender recipient amount = true ↔
      0 < amount.toNat ∧ amount.toNat ≤ (token.balance sender).toNat ∧
        (sender = recipient ∨ (token.balance recipient).toNat + amount.toNat < Amount.size) := by
  simp [canSend, canCredit, BitVec.lt_def, BitVec.le_def, and_assoc]

/-- A move that can be made takes the amount from the sender and gives it to the recipient. -/
theorem balance_move_toNat (sendable : token.canSend sender recipient amount = true)
    (owner : Address) :
    ((token.move sender recipient amount).balance owner).toNat +
        (if owner = sender then amount.toNat else 0) =
      (token.balance owner).toNat + (if owner = recipient then amount.toNat else 0) := by
  obtain ⟨_, covered, room⟩ := canSend_iff.mp sendable
  rw [balance_move]
  by_cases self : sender = recipient
  · simp [self]
  · have fits := room.resolve_left self
    by_cases atRecipient : owner = recipient
    · subst atRecipient
      simp only [self, Ne.symm self, ↓reduceIte, BitVec.toNat_add, Nat.mod_eq_of_lt fits]
      omega
    · by_cases atSender : owner = sender
      · subst atSender
        simp only [self, ↓reduceIte, BitVec.toNat_sub_of_le (BitVec.le_def.mpr covered)]
        omega
      · simp [self, atRecipient, atSender]

theorem totalSupply_move (sendable : token.canSend sender recipient amount = true) :
    (token.move sender recipient amount).totalSupply = token.totalSupply := by
  by_cases self : sender = recipient
  · simp [move, self]
  · have taken := balance_move_toNat sendable sender
    have given := balance_move_toNat sendable recipient
    have debit := totalSupply_setBalance token sender (token.balance sender - amount)
    have credit := totalSupply_setBalance
      (token.setBalance sender (token.balance sender - amount)) recipient
      ((token.setBalance sender (token.balance sender - amount)).balance recipient + amount)
    simp only [move, self, balance_setBalance, Ne.symm self, ↓reduceIte] at taken given credit ⊢
    omega

end Sendable

/-- Granted units are added to the recipient's balance and to the supply. -/
theorem issue_granted {token next : Token} {caller recipient : Address} {amount : Amount}
    (granted : token.issue caller recipient amount = (true, next)) :
    next.address = token.address ∧ next.lastSuccess = token.lastSuccess ∧
      next.totalSupply = token.totalSupply + amount.toNat ∧
      ∀ owner, (next.balance owner).toNat =
        (token.balance owner).toNat + (if owner = recipient then amount.toNat else 0) := by
  unfold issue at granted
  split at granted
  case isFalse => simp at granted
  case isTrue allowed =>
    obtain rfl := (Prod.mk.inj granted).2
    have fits : (token.balance recipient).toNat + amount.toNat < Amount.size := by
      simpa [canCredit] using allowed.2
    have credited : (token.balance recipient + amount).toNat =
        (token.balance recipient).toNat + amount.toNat := by
      rw [BitVec.toNat_add, Nat.mod_eq_of_lt fits]
    have supply := totalSupply_setBalance token recipient (token.balance recipient + amount)
    refine ⟨rfl, rfl, by omega, ?_⟩
    intro owner
    rw [balance_setBalance]
    by_cases here : owner = recipient
    · subst here
      rw [if_pos rfl, if_pos rfl, credited]
    · rw [if_neg (Ne.symm here), if_neg here]
      rfl

theorem issue_refused {token next : Token} {caller recipient : Address} {amount : Amount}
    (refused : token.issue caller recipient amount = (false, next)) : next = token := by
  unfold issue at refused
  split at refused
  case isTrue => simp at refused
  case isFalse => exact (Prod.mk.inj refused).2.symm

/-- A successful send moved the amount and recorded it. -/
theorem send_made {token next : Token} {sender recipient : Address} {amount : Amount}
    (made : token.send sender recipient amount = (true, next)) :
    token.canSend sender recipient amount = true ∧
      next = (token.move sender recipient amount).record sender recipient amount true := by
  unfold send at made
  split at made
  case isTrue sendable => exact ⟨sendable, (Prod.mk.inj made).2.symm⟩
  case isFalse => simp at made

/-- A failed send is recorded as an attempt and does nothing else. -/
theorem send_failed {token next : Token} {sender recipient : Address} {amount : Amount}
    (failed : token.send sender recipient amount = (false, next)) :
    next = token.record sender recipient amount false := by
  unfold send at failed
  split at failed
  case isTrue => simp at failed
  case isFalse => exact (Prod.mk.inj failed).2.symm

theorem address_issue (token : Token) (caller recipient : Address) (amount : Amount) :
    (token.issue caller recipient amount).2.address = token.address := by
  unfold issue
  split <;> rfl

theorem address_send (token : Token) (sender recipient : Address) (amount : Amount) :
    (token.send sender recipient amount).2.address = token.address := by
  unfold send
  split
  case isTrue => exact address_move token sender recipient amount
  case isFalse => rfl

/-- Two states of a token that neither holdings nor the latest transfer tell apart. -/
structure Alike (old new : Token) : Prop where
  address : new.address = old.address
  lastSuccess : new.lastSuccess = old.lastSuccess
  balance : ∀ owner, new.balance owner = old.balance owner
  totalSupply : new.totalSupply = old.totalSupply

theorem Alike.refl (token : Token) : token.Alike token := ⟨rfl, rfl, fun _ => rfl, rfl⟩

/-- A failed attempt to send is written down and changes nothing else. -/
theorem Alike.attempted (token : Token) (sender recipient : Address) (amount : Amount) :
    token.Alike (token.record sender recipient amount false) := ⟨rfl, rfl, fun _ => rfl, rfl⟩

end Token

end DoubleAuction
