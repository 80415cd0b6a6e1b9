import DoubleAuction.Ledger.Calls
import DoubleAuction.Proofs.Ledger.Books

/-! # Conservation over the calls on a token

Any run of calls leaves a token whose supply is what was issued and whose records are those of the
log (`Token.Kept`), because every single call does (`Kept.call`). What the next call may do is said
in terms of what every address holds (`Issuing`, `Sending`): a call that succeeds changes just the
balances that it names, by exactly the amount, and any other call changes none.
-/

namespace DoubleAuction.Token

/-- The units that an event created. -/
def Event.issued : Event → Nat
  | ⟨.issue _ _ amount, true⟩ => amount.toNat
  | _ => 0

/-- The attempt to send that an event tells of, but for its number. -/
def Event.attempt? : Event → Option (UInt64 → Transfer)
  | ⟨.send sender recipient amount, success⟩ =>
    some fun seq => ⟨seq, sender, recipient, amount, success⟩
  | ⟨.issue .., _⟩ => none

/-- The attempts to send, oldest first, each numbered by its place. -/
def attempts (events : List Event) : List Transfer :=
  (events.filterMap Event.attempt?).mapIdx fun place attempt => attempt (.ofNat (place + 1))

theorem attempts_concat_issue (events : List Event) (caller recipient : Address) (amount : Amount)
    (success : Bool) :
    attempts (events ++ [⟨.issue caller recipient amount, success⟩]) = attempts events := by
  have silent : Event.attempt? ⟨.issue caller recipient amount, success⟩ = none := rfl
  simp [attempts, silent]

theorem attempts_concat_send (events : List Event) (sender recipient : Address) (amount : Amount)
    (success : Bool) :
    attempts (events ++ [⟨.send sender recipient amount, success⟩]) = attempts events ++
      [⟨.ofNat ((attempts events).length + 1), sender, recipient, amount, success⟩] := by
  simp [attempts, Event.attempt?, List.mapIdx_append]

/-- As long as the numbers do not run out, they are 1, 2, 3 and so on. -/
theorem seq_of_attempts {events : List Event}
    (inRange : (attempts events).length + 1 < UInt64.size) {place : Nat} {attempt : Transfer}
    (made : (attempts events)[place]? = some attempt) : attempt.seq.toNat = place + 1 := by
  obtain ⟨inside, _⟩ := List.getElem?_eq_some_iff.mp made
  have bound : place + 1 < UInt64.size := by omega
  have numbered : attempt.seq = .ofNat (place + 1) := by
    simp only [attempts, List.getElem?_mapIdx, Option.map_eq_some_iff] at made
    obtain ⟨untitled, told, rfl⟩ := made
    obtain ⟨event, _, attempted⟩ := List.mem_filterMap.mp (List.mem_of_getElem? told)
    obtain ⟨call, success⟩ := event
    cases call with
    | issue => cases attempted
    | send =>
      cases attempted
      rfl
  rw [numbered, UInt64.toNat_ofNat', Nat.mod_eq_of_lt bound]

/-- What a token owes to its log: the supply is what was issued, and the records are the latest
attempt and the latest attempt that succeeded. -/
structure Kept (token : Token) (events : List Event) : Prop where
  supply : token.totalSupply = sumOver Event.issued events
  lastAttempt : token.lastAttempt = (attempts events).getLast?
  books : token.Books (attempts events)

section Calls

variable {token : Token} {events : List Event}

theorem lastAttempt_issue (token : Token) (caller recipient : Address) (amount : Amount) :
    (token.issue caller recipient amount).2.lastAttempt = token.lastAttempt := by
  unfold issue
  split <;> rfl

theorem totalSupply_issue (token : Token) (caller recipient : Address) (amount : Amount) :
    (token.issue caller recipient amount).2.totalSupply = token.totalSupply +
      Event.issued ⟨.issue caller recipient amount, (token.issue caller recipient amount).1⟩ := by
  cases issued : token.issue caller recipient amount with
  | mk success next =>
    cases success with
    | true => exact (issue_granted issued).2.2.1
    | false =>
      obtain rfl := issue_refused issued
      rfl

theorem Kept.issue (kept : token.Kept events) (caller recipient : Address) (amount : Amount) :
    (token.issue caller recipient amount).2.Kept
      (events ++ [⟨.issue caller recipient amount, (token.issue caller recipient amount).1⟩]) := by
  refine ⟨?_, ?_, ?_⟩
  · rw [totalSupply_issue, kept.supply, sumOver_append, sumOver_cons, sumOver_nil, Nat.add_zero]
  · rw [attempts_concat_issue, lastAttempt_issue, kept.lastAttempt]
  · rw [attempts_concat_issue]
    exact kept.books.issue caller recipient amount

theorem totalSupply_send (token : Token) (sender recipient : Address) (amount : Amount) :
    (token.send sender recipient amount).2.totalSupply = token.totalSupply := by
  unfold send
  split
  case isTrue sendable => exact totalSupply_move sendable
  case isFalse => rfl

theorem nextSeq_move (token : Token) (sender recipient : Address) (amount : Amount) :
    (token.move sender recipient amount).nextSeq = token.nextSeq := by
  unfold move
  split <;> rfl

/-- Every attempt is recorded under the next number, whether it succeeds or not. -/
theorem lastAttempt_send (token : Token) (sender recipient : Address) (amount : Amount) :
    (token.send sender recipient amount).2.lastAttempt =
      some ⟨token.nextSeq, sender, recipient, amount,
        (token.send sender recipient amount).1⟩ := by
  unfold send
  split
  case isTrue => simp only [record, nextSeq_move]
  case isFalse => rfl

theorem Kept.send (kept : token.Kept events) (sender recipient : Address) (amount : Amount) :
    (token.send sender recipient amount).2.Kept
      (events ++ [⟨.send sender recipient amount, (token.send sender recipient amount).1⟩]) := by
  refine ⟨?_, ?_, ?_⟩
  · simp only [totalSupply_send, kept.supply, sumOver_append, sumOver_cons, sumOver_nil,
      Event.issued, Nat.add_zero]
  · rw [attempts_concat_send, lastAttempt_send, kept.books.nextSeq, List.getLast?_concat]
  · rw [attempts_concat_send]
    exact kept.books.send sender recipient amount

/-- Every call keeps the token in agreement with its log. -/
theorem Kept.call (kept : token.Kept events) (call : Call) :
    (token.call call).2.Kept (events ++ [⟨call, (token.call call).1⟩]) := by
  cases call with
  | issue caller recipient amount => exact kept.issue caller recipient amount
  | send sender recipient amount => exact kept.send sender recipient amount

theorem Kept.run (kept : token.Kept events) (calls : List Call) :
    (token.run calls).2.Kept (events ++ (token.run calls).1) := by
  induction calls generalizing token events with
  | nil => simpa [Token.run] using kept
  | cons first rest ih =>
    have later := ih (kept.call first)
    rwa [List.append_assoc] at later

theorem kept_create (address issuer : Address) : (create address issuer).Kept [] :=
  ⟨rfl, rfl, books_create address issuer⟩

end Calls

/-- What asking for new units does. Only the issuer gets them, and only what the recipient's balance
can take; a refusal changes nothing. -/
structure Issuing (token : Token) (caller recipient : Address) (amount : Amount) : Prop where
  granted_iff : (token.issue caller recipient amount).1 = true ↔
    caller = token.issuer ∧ (token.balance recipient).toNat + amount.toNat < Amount.size
  granted : (token.issue caller recipient amount).1 = true → ∀ owner,
    ((token.issue caller recipient amount).2.balance owner).toNat =
      (token.balance owner).toNat + (if owner = recipient then amount.toNat else 0)
  refused : (token.issue caller recipient amount).1 = false →
    (token.issue caller recipient amount).2 = token

theorem issuing (token : Token) (caller recipient : Address) (amount : Amount) :
    token.Issuing caller recipient amount := by
  refine ⟨?_, fun granted => ?_, fun refused => ?_⟩
  · simp only [issue, canCredit, decide_eq_true_eq]
    split
    case isTrue allowed => exact iff_of_true rfl allowed
    case isFalse denied => exact iff_of_false Bool.false_ne_true denied
  · exact (issue_granted (Prod.ext granted rfl)).2.2.2
  · exact issue_refused (Prod.ext refused rfl)

/-- What an attempt to send does. If it is made to someone else, it takes the amount from the sender
and gives it to the recipient, and neither balance leaves the range of amounts on the way; else it
moves nothing. It is recorded in any case, and as the latest transfer if it is made. -/
structure Sending (token : Token) (sender recipient : Address) (amount : Amount) : Prop where
  made_iff : (token.send sender recipient amount).1 = true ↔
    0 < amount.toNat ∧ amount.toNat ≤ (token.balance sender).toNat ∧
      (sender = recipient ∨ (token.balance recipient).toNat + amount.toNat < Amount.size)
  inRange : (token.send sender recipient amount).1 = true → sender ≠ recipient →
    let debited := token.setBalance sender (token.balance sender - amount)
    amount.toNat ≤ (token.balance sender).toNat ∧
      (debited.balance recipient).toNat + amount.toNat < Amount.size
  moved : (token.send sender recipient amount).1 = true → sender ≠ recipient → ∀ owner,
    ((token.send sender recipient amount).2.balance owner).toNat +
        (if owner = sender then amount.toNat else 0) =
      (token.balance owner).toNat + (if owner = recipient then amount.toNat else 0)
  unmoved : (token.send sender recipient amount).1 = false ∨ sender = recipient → ∀ owner,
    (token.send sender recipient amount).2.balance owner = token.balance owner
  supply : (token.send sender recipient amount).2.totalSupply = token.totalSupply
  lastAttempt : (token.send sender recipient amount).2.lastAttempt =
    some ⟨token.nextSeq, sender, recipient, amount, (token.send sender recipient amount).1⟩
  lastSuccess : (token.send sender recipient amount).2.lastSuccess =
    if (token.send sender recipient amount).1 then
      (token.send sender recipient amount).2.lastAttempt
    else token.lastSuccess

theorem sending (token : Token) (sender recipient : Address) (amount : Amount) :
    token.Sending sender recipient amount := by
  have supply := totalSupply_send token sender recipient amount
  have lastAttempt := lastAttempt_send token sender recipient amount
  cases sent : token.send sender recipient amount with
  | mk success next =>
    rw [sent] at supply lastAttempt
    cases success with
    | true =>
      obtain ⟨sendable, rfl⟩ := send_made sent
      obtain ⟨positive, covered, room⟩ := canSend_iff.mp sendable
      refine ⟨?_, ?_, ?_, ?_, ?_, ?_, ?_⟩
      all_goals simp only [sent]
      · simp only [true_iff]
        exact ⟨positive, covered, room⟩
      · intro _ ne
        refine ⟨covered, ?_⟩
        rw [balance_setBalance, if_neg ne]
        exact room.resolve_left ne
      · intro _ _ owner
        exact balance_move_toNat sendable owner
      · rintro (failed | rfl) owner
        · cases failed
        · simp [balance_move]
      · exact supply
      · exact lastAttempt
      · rfl
    | false =>
      obtain rfl := send_failed sent
      have unsendable : ¬ token.canSend sender recipient amount = true := by
        intro sendable
        simp [send, sendable] at sent
      refine ⟨?_, ?_, ?_, ?_, ?_, ?_, ?_⟩
      all_goals simp only [sent]
      · simpa [canSend_iff] using unsendable
      · intro made
        cases made
      · intro made
        cases made
      · intro _ owner
        rfl
      · exact supply
      · exact lastAttempt
      · rfl

theorem issuer_call (token : Token) (call : Call) : (token.call call).2.issuer = token.issuer := by
  cases call with
  | issue caller recipient amount =>
    simp only [Token.call, issue]
    split <;> rfl
  | send sender recipient amount =>
    simp only [Token.call, send, move]
    split
    case isTrue =>
      split <;> rfl
    case isFalse => rfl

theorem issuer_run (token : Token) (calls : List Call) :
    (token.run calls).2.issuer = token.issuer := by
  induction calls generalizing token with
  | nil => rfl
  | cons first rest ih => exact (ih (token.call first).2).trans (issuer_call token first)

/-- After any calls on a new token, the supply is what was issued, the attempts to send are numbered
by their places, the latest of them and the latest of those that were made are on record, and the
next call does what `Issuing` and `Sending` say. -/
theorem run_conserves (address issuer : Address) (calls : List Call)
    (inRange : (attempts ((create address issuer).run calls).1).length + 1 < UInt64.size) :
    let events := ((create address issuer).run calls).1
    let token := ((create address issuer).run calls).2
    token.issuer = issuer ∧
      token.totalSupply = sumOver Event.issued events ∧
      token.lastAttempt = (attempts events).getLast? ∧
      token.lastSuccess = ((attempts events).filter (·.success)).getLast? ∧
      (∀ place attempt, (attempts events)[place]? = some attempt →
        attempt.seq.toNat = place + 1) ∧
      token.nextSeq.toNat = (attempts events).length + 1 ∧
      (∀ caller recipient amount, token.Issuing caller recipient amount) ∧
      ∀ sender recipient amount, token.Sending sender recipient amount := by
  have kept := (kept_create address issuer).run calls
  rw [List.nil_append] at kept
  refine ⟨issuer_run _ calls, kept.supply, kept.lastAttempt, kept.books.lastSuccess,
    fun _ _ made => seq_of_attempts inRange made, ?_, issuing _, sending _⟩
  rw [kept.books.nextSeq, UInt64.toNat_ofNat', Nat.mod_eq_of_lt inRange]

/-- Two units more than the largest amount are issued, in two parts to two holders. -/
def brimming : List Call :=
  [.issue ⟨0x15⟩ ⟨0xa⟩ (.allOnes 128), .issue ⟨0xa⟩ ⟨0xa⟩ 5, .issue ⟨0x15⟩ ⟨0xa⟩ 1,
    .issue ⟨0x15⟩ ⟨0xb⟩ 2, .send ⟨0xb⟩ ⟨0xa⟩ 1, .send ⟨0xa⟩ ⟨0xa⟩ (.allOnes 128),
    .send ⟨0xc⟩ ⟨0xb⟩ 0]

/-- Of the three attempts only the second is made, from a holder to itself. The full balance takes
nothing, but units can be sent from it. -/
theorem brimming_conserves :
    let token := ((create ⟨0xc1⟩ ⟨0x15⟩).run brimming).2
    token.totalSupply = Amount.size + 1 ∧
      token.lastAttempt = some ⟨3, ⟨0xc⟩, ⟨0xb⟩, 0, false⟩ ∧
      token.lastSuccess = some ⟨2, ⟨0xa⟩, ⟨0xa⟩, .allOnes 128, true⟩ ∧
      (token.send ⟨0xb⟩ ⟨0xa⟩ 1).1 = false ∧
      ((token.send ⟨0xa⟩ ⟨0xb⟩ 7).2.balance ⟨0xb⟩).toNat = 9 := by
  obtain ⟨_, supply, lastAttempt, lastSuccess, _, _, _, sends⟩ :=
    run_conserves ⟨0xc1⟩ ⟨0x15⟩ brimming (by decide +kernel)
  refine ⟨?_, ?_, ?_, ?_, ?_⟩
  · rw [supply]
    decide +kernel
  · rw [lastAttempt]
    decide +kernel
  · rw [lastSuccess]
    decide +kernel
  · rw [Bool.eq_false_iff, Ne, (sends _ _ _).made_iff]
    decide +kernel
  · have received := (sends ⟨0xa⟩ ⟨0xb⟩ 7).moved (by decide +kernel) (by decide) ⟨0xb⟩
    have before : ((((create ⟨0xc1⟩ ⟨0x15⟩).run brimming).2).balance ⟨0xb⟩).toNat = 2 := by
      decide +kernel
    rw [before] at received
    exact received

end DoubleAuction.Token
