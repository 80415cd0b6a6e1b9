import DoubleAuction.Proofs.Market.Transfers

/-! # Runs of payouts

`payAll` has three ends: all payouts were made, all that were made are back, or one of them could
not be returned. The inversion lemmas `payAll_cons_eq_paid`, `payAll_cons_eq_undone` and
`payAll_cons_eq_stuck` say how each end comes about; everything else follows by induction on the
payouts. The holdings are exact in the first two ends (`balance_of_paid`, `balance_of_undone`), and
`sentBack` names the payouts that came back, also when the run got stuck. Payouts that are
all possible are all made (`Payable`, `payAll_eq_paid`).
-/

namespace DoubleAuction

namespace Payout

section Runs

variable {market : Address} {payout : Payout} {rest payouts : List Payout}
  {ledgers last : Sided RefusingToken} {refused kept : Payout} {returned : List Payout}

theorem payAll_cons_eq_paid (run : payAll market ledgers (payout :: rest) = .paid last) :
    ∃ next, payout.transfer ledgers market payout.payee = (true, next) ∧
      payAll market next rest = .paid last := by
  rw [payAll] at run
  split at run
  case h_1 => cases run
  case h_2 next made =>
    split at run
    case h_1 => split at run <;> cases run
    case h_2 => exact ⟨next, made, run⟩

/-- A run is undone when its first payout is refused, or when the rest is undone and the first
payout comes back after it. -/
theorem payAll_cons_eq_undone
    (run : payAll market ledgers (payout :: rest) = .undone last refused returned) :
    (payout.transfer ledgers market payout.payee = (false, last) ∧ refused = payout ∧
        returned = []) ∨
      ∃ next middle later, payout.transfer ledgers market payout.payee = (true, next) ∧
        payAll market next rest = .undone middle refused later ∧
        payout.transfer middle payout.payee market = (true, last) ∧ returned = payout :: later := by
  rw [payAll] at run
  split at run
  case h_1 next refusal =>
    cases run
    exact .inl ⟨refusal, rfl, rfl⟩
  case h_2 next made =>
    split at run
    case h_1 middle other later undone =>
      split at run
      case h_1 back => cases run; exact .inr ⟨next, middle, later, made, undone, back, rfl⟩
      case h_2 => cases run
    case h_2 unaffected => exact absurd run (unaffected _ _ _)

/-- A run gets stuck when its rest does, or when the rest is undone and the first payout does not
come back after it. -/
theorem payAll_cons_eq_stuck (run : payAll market ledgers (payout :: rest) = .stuck last kept) :
    ∃ next, payout.transfer ledgers market payout.payee = (true, next) ∧
      (payAll market next rest = .stuck last kept ∨
        ∃ middle refused later, payAll market next rest = .undone middle refused later ∧
          payout.transfer middle payout.payee market = (false, last) ∧ kept = payout) := by
  rw [payAll] at run
  split at run
  case h_1 => cases run
  case h_2 next made =>
    split at run
    case h_1 middle other later undone =>
      split at run
      case h_1 => cases run
      case h_2 back =>
        cases run
        exact ⟨next, made, .inr ⟨middle, other, later, undone, back, rfl⟩⟩
    case h_2 => exact ⟨next, made, .inl run⟩

/-- In an undone run everyone holds what they held before. -/
theorem balance_of_undone (run : payAll market ledgers payouts = .undone last refused returned)
    (side : Side) (owner : Address) :
    (last.get side).token.balance owner = (ledgers.get side).token.balance owner := by
  induction payouts generalizing ledgers last returned side owner with
  | nil => cases run
  | cons payout rest ih =>
    rcases payAll_cons_eq_undone run with
      ⟨refusal, _, _⟩ | ⟨next, middle, later, made, undone, back, _⟩
    · exact (transfer_unmade refusal side).balance owner
    · obtain ⟨_, paid⟩ := transfer_made made
      obtain ⟨_, unpaid⟩ := transfer_made back
      have restored := ih undone side
      rw [unpaid side]
      rw [paid side] at restored
      split
      case isTrue here =>
        rw [if_pos here] at restored
        exact Token.balance_move_move _ _ _ _ _ _ restored
      case isFalse elsewhere =>
        rw [if_neg elsewhere] at restored
        exact restored owner

/-- In a paid run every payout reached its payee out of the market's holdings. A payout of the
market to itself moves nothing. -/
theorem balance_of_paid (run : payAll market ledgers payouts = .paid last) (side : Side)
    (owner : Address) :
    ((last.get side).token.balance owner).toNat +
        (if owner = market then totalOn side payouts else 0) =
      ((ledgers.get side).token.balance owner).toNat + totalTo side owner payouts := by
  induction payouts generalizing ledgers with
  | nil =>
    cases run
    simp [totalOn, totalTo]
  | cons payout rest ih =>
    obtain ⟨next, made, paid⟩ := payAll_cons_eq_paid run
    have first := balance_of_transfer made side owner
    have later := ih paid
    simp only [totalOn, totalTo, sumOver_cons] at later ⊢
    by_cases atMarket : market = owner
    · simp only [atMarket, and_true, ↓reduceIte] at first later ⊢
      omega
    · simp only [atMarket, Ne.symm atMarket, and_false, ↓reduceIte] at first later ⊢
      omega

/-- Payouts are all made when those of the first part are and then those of the second. -/
theorem payAll_append_eq_paid_iff {later : List Payout} :
    payAll market ledgers (payouts ++ later) = .paid last ↔
      ∃ middle, payAll market ledgers payouts = .paid middle ∧
        payAll market middle later = .paid last := by
  induction payouts generalizing ledgers with
  | nil => simp [payAll]
  | cons payout rest ih =>
    constructor
    · intro run
      obtain ⟨next, made, paid⟩ := payAll_cons_eq_paid run
      obtain ⟨middle, before, after⟩ := ih.mp paid
      exact ⟨middle, by simp only [payAll, made, before], after⟩
    · rintro ⟨middle, before, after⟩
      obtain ⟨next, made, paid⟩ := payAll_cons_eq_paid before
      have whole := ih.mpr ⟨middle, paid, after⟩
      simp only [List.cons_append, payAll, made, whole]

/-- After a paid run the latest transfer on a ledger is a payout of the market or the one before. -/
theorem lastSuccess_of_paid (run : payAll market ledgers payouts = .paid last) (side : Side) :
    (last.get side).token.lastSuccess = (ledgers.get side).token.lastSuccess ∨
      ∃ payout ∈ payouts, payout.side = side ∧ ∃ seq, (last.get side).token.lastSuccess =
        some ⟨seq, market, payout.payee, payout.units, true⟩ := by
  induction payouts generalizing ledgers with
  | nil =>
    cases run
    exact .inl rfl
  | cons payout rest ih =>
    obtain ⟨next, made, paid⟩ := payAll_cons_eq_paid run
    obtain ⟨_, moved⟩ := transfer_made made
    rcases ih paid with same | ⟨other, member, here, seq, latest⟩
    · rw [same, moved side]
      split
      case isTrue here =>
        exact .inr ⟨payout, List.mem_cons_self, here.symm, _, rfl⟩
      case isFalse => exact .inl rfl
    · exact .inr ⟨other, List.mem_cons_of_mem _ member, here, seq, latest⟩

/-- In an undone run the payouts before the refused one are those that came back. -/
theorem prefix_of_undone (run : payAll market ledgers payouts = .undone last refused returned) :
    ∃ rest, payouts = returned ++ refused :: rest := by
  induction payouts generalizing ledgers last returned with
  | nil => cases run
  | cons payout rest ih =>
    rcases payAll_cons_eq_undone run with
      ⟨_, rfl, rfl⟩ | ⟨next, middle, later, _, undone, _, rfl⟩
    · exact ⟨rest, rfl⟩
    · obtain ⟨tail, rfl⟩ := ih undone
      exact ⟨tail, rfl⟩

/-- After an undone run the latest transfer on a ledger is the return of the first payout made
there; without a payout it is the one before. -/
theorem lastSuccess_of_undone (run : payAll market ledgers payouts = .undone last refused returned)
    (side : Side) :
    match returned.find? (·.side = side) with
    | some payout => ∃ seq, (last.get side).token.lastSuccess =
        some ⟨seq, payout.payee, market, payout.units, true⟩
    | none => (last.get side).token.lastSuccess = (ledgers.get side).token.lastSuccess := by
  induction payouts generalizing ledgers last returned with
  | nil => cases run
  | cons payout rest ih =>
    rcases payAll_cons_eq_undone run with
      ⟨refusal, _, rfl⟩ | ⟨next, middle, later, made, undone, back, rfl⟩
    · exact (transfer_unmade refusal side).lastSuccess
    · obtain ⟨_, paid⟩ := transfer_made made
      obtain ⟨_, unpaid⟩ := transfer_made back
      have between := ih undone
      rw [unpaid side]
      rw [paid side] at between
      by_cases here : side = payout.side
      · subst here
        simp only [List.find?_cons, decide_true, ↓reduceIte]
        exact ⟨_, rfl⟩
      · simpa only [List.find?_cons, Ne.symm here, decide_false, here, ↓reduceIte] using between

end Runs

/-- The payouts that a run made and took back, in the order they were made. When the run got stuck,
these are the payouts behind the one that could not be returned. -/
def sentBack {L : Type u} [Ledger L] (market : Address) (ledgers : Sided L) :
    List Payout → List Payout
  | [] => []
  | payout :: rest =>
    match payout.transfer ledgers market payout.payee with
    | (false, _) => []
    | (true, next) =>
      match payAll market next rest with
      | .paid _ => []
      | .undone middle _ later =>
        if (payout.transfer middle payout.payee market).1 then payout :: later else later
      | .stuck _ _ => sentBack market next rest

section SentBack

variable {market : Address} {payouts : List Payout} {ledgers last : Sided RefusingToken}

theorem sentBack_of_undone {refused : Payout} {returned : List Payout}
    (run : payAll market ledgers payouts = .undone last refused returned) :
    sentBack market ledgers payouts = returned := by
  cases payouts with
  | nil => cases run
  | cons payout rest =>
    rcases payAll_cons_eq_undone run with
      ⟨refusal, _, rfl⟩ | ⟨next, middle, later, made, undone, back, rfl⟩
    · simp only [sentBack, refusal]
    · simp only [sentBack, made, undone, back, ↓reduceIte]

theorem sentBack_subset (market : Address) (ledgers : Sided RefusingToken) (payouts : List Payout) :
    sentBack market ledgers payouts ⊆ payouts := by
  induction payouts generalizing ledgers with
  | nil => exact List.nil_subset _
  | cons payout rest ih =>
    rw [sentBack]
    split
    case h_1 => exact List.nil_subset _
    case h_2 next made =>
      split
      case h_1 => exact List.nil_subset _
      case h_2 middle refused later undone =>
        obtain ⟨tail, split⟩ := prefix_of_undone undone
        have behind : later ⊆ rest := split ▸ List.subset_append_left later _
        split
        · exact List.cons_subset_cons payout behind
        · exact List.Subset.trans behind (List.subset_cons_self payout rest)
      case h_3 => exact List.Subset.trans (ih next) (List.subset_cons_self payout rest)

/-- After a stuck run the latest transfer on a ledger to which payouts came back is the return of
the first of them. -/
theorem lastSuccess_of_stuck {kept payout : Payout}
    (run : payAll market ledgers payouts = .stuck last kept) {side : Side}
    (latest : (sentBack market ledgers payouts).find? (·.side = side) = some payout) :
    ∃ seq, (last.get side).token.lastSuccess =
      some ⟨seq, payout.payee, market, payout.units, true⟩ := by
  induction payouts generalizing ledgers with
  | nil => cases run
  | cons head rest ih =>
    obtain ⟨next, made, stuck | ⟨middle, refused, later, undone, back, rfl⟩⟩ :=
      payAll_cons_eq_stuck run
    · simp only [sentBack, made, stuck] at latest
      exact ih stuck latest
    · simp only [sentBack, made, undone, back, Bool.false_eq_true, ↓reduceIte] at latest
      have between := lastSuccess_of_undone undone side
      rw [latest] at between
      rw [(transfer_unmade back side).lastSuccess]
      exact between

end SentBack

end Payout

namespace PayoutRun

/-- The ledgers as a run of payouts leaves them. -/
def ledgers {L : Type u} : PayoutRun L → Sided L
  | .paid ledgers => ledgers
  | .undone ledgers _ _ => ledgers
  | .stuck ledgers _ => ledgers

end PayoutRun

/-- What every transfer preserves is preserved by every run of payouts. -/
theorem Payout.payAll_preserves {L : Type u} [Ledger L] (keeps : Sided L → Prop)
    (step : ∀ (payout : Payout) ledgers sender recipient, keeps ledgers →
      keeps (payout.transfer ledgers sender recipient).2)
    (market : Address) (payouts : List Payout) {ledgers : Sided L} (before : keeps ledgers) :
    keeps (payAll market ledgers payouts).ledgers := by
  induction payouts generalizing ledgers with
  | nil => exact before
  | cons payout rest ih =>
    have kept := step payout ledgers market payout.payee before
    rw [payAll]
    split
    case h_1 next refusal => rwa [refusal] at kept
    case h_2 next made =>
      rw [made] at kept
      have later := ih kept
      split
      case h_1 middle refused returned undone =>
        rw [undone] at later
        have back := step payout middle payout.payee market later
        split
        case h_1 returns => rwa [returns] at back
        case h_2 keeps => rwa [keeps] at back
      case h_2 => exact later

/-- Names of ledgers and supplies survive every run of payouts. -/
theorem Payout.payAll_frame (market : Address) (payouts : List Payout)
    (ledgers : Sided RefusingToken) (side : Side) :
    ((payAll market ledgers payouts).ledgers.get side).token.address =
        (ledgers.get side).token.address ∧
      ((payAll market ledgers payouts).ledgers.get side).token.totalSupply =
        (ledgers.get side).token.totalSupply := by
  refine payAll_preserves (fun current : Sided RefusingToken =>
    (current.get side).token.address = (ledgers.get side).token.address ∧
      (current.get side).token.totalSupply = (ledgers.get side).token.totalSupply)
    ?_ market payouts ⟨rfl, rfl⟩
  intro payout current sender recipient same
  obtain ⟨address, supply⟩ := transfer_frame payout current sender recipient side
  exact ⟨address.trans same.1, supply.trans same.2⟩

theorem Payout.frame_of_payAll {market : Address} {payouts : List Payout}
    {ledgers last : Sided RefusingToken} {ended : PayoutRun RefusingToken}
    (run : payAll market ledgers payouts = ended) (left : ended.ledgers = last) (side : Side) :
    (last.get side).token.address = (ledgers.get side).token.address ∧
      (last.get side).token.totalSupply = (ledgers.get side).token.totalSupply := by
  subst run left
  exact payAll_frame market payouts ledgers side

/-- Ledgers that refuse nothing do not begin to during a run of payouts. -/
theorem Payout.unrefused_payAll {market : Address} {payouts : List Payout}
    {ledgers last : Sided RefusingToken} {ended : PayoutRun RefusingToken}
    (unrefused : ∀ side, (ledgers.get side).refusals = [])
    (run : payAll market ledgers payouts = ended) (left : ended.ledgers = last) :
    ∀ side, (last.get side).refusals = [] := by
  subst run left
  refine payAll_preserves (fun current : Sided RefusingToken =>
    ∀ side, (current.get side).refusals = []) ?_ market payouts unrefused
  intro payout current sender recipient free side
  rw [transfer_eq, Sided.get_set]
  split
  case isTrue => exact RefusingToken.refusals_transfer (free payout.side) sender recipient _
  case isFalse => exact free side

namespace Payout

/-- What makes every payout of a list possible: none is empty or refused, the market holds them
all, and the balance of every other payee has room for what it is due. -/
structure Payable (market : Address) (ledgers : Sided RefusingToken) (payouts : List Payout) :
    Prop where
  positive : ∀ payout ∈ payouts, payout.amount ≠ 0
  accepted : ∀ payout ∈ payouts, (ledgers.get payout.side).Accepts payout.payee
  covered : ∀ side, totalOn side payouts ≤ ((ledgers.get side).token.balance market).toNat
  roomy : ∀ side owner, owner ≠ market →
    ((ledgers.get side).token.balance owner).toNat + totalTo side owner payouts < Amount.size

section Payable

variable {market : Address} {ledgers : Sided RefusingToken} {payout : Payout} {rest : List Payout}

theorem Payable.canSend (payable : Payable market ledgers (payout :: rest)) :
    (ledgers.get payout.side).token.canSend market payout.payee payout.units = true := by
  have positive := payable.positive payout List.mem_cons_self
  have nonzero : payout.amount.toNat ≠ 0 := fun zero => positive (UInt64.toNat_inj.mp zero)
  have funds := payable.covered payout.side
  simp only [totalOn, sumOver_cons, ↓reduceIte] at funds
  rw [Token.canSend_iff, units_toNat]
  refine ⟨by omega, by omega, ?_⟩
  rcases Decidable.em (market = payout.payee) with self | other
  · exact .inl self
  · have room := payable.roomy payout.side payout.payee (Ne.symm other)
    simp only [totalTo, sumOver_cons, and_self, ↓reduceIte] at room
    exact .inr (by omega)

/-- The first of the payouts is made, and the rest stay possible. -/
theorem Payable.step (payable : Payable market ledgers (payout :: rest)) :
    ∃ next, payout.transfer ledgers market payout.payee = (true, next) ∧
      Payable market next rest := by
  obtain ⟨ledger, made, refusals⟩ := RefusingToken.transfer_of_canSend
    (payable.accepted payout List.mem_cons_self) payable.canSend
  have transferred : payout.transfer ledgers market payout.payee =
      (true, ledgers.set payout.side ledger) := by
    rw [transfer_eq, made]
  have moves := balance_of_transfer transferred
  refine ⟨_, transferred, ?_, ?_, ?_, ?_⟩
  · intro other member
    exact payable.positive other (List.mem_cons_of_mem _ member)
  · intro other member
    have accepts := payable.accepted other (List.mem_cons_of_mem _ member)
    rw [Sided.get_set]
    split
    case isTrue here => rwa [RefusingToken.Accepts, refusals, ← here]
    case isFalse => exact accepts
  · intro side
    have funds := payable.covered side
    have moved := moves side market
    simp only [totalOn, sumOver_cons, and_true] at funds moved ⊢
    omega
  · intro side owner other
    have room := payable.roomy side owner other
    have moved := moves side owner
    simp only [totalTo, sumOver_cons, Ne.symm other, and_false, ↓reduceIte] at room moved ⊢
    omega

end Payable

/-- Payouts that are possible are all made. -/
theorem payAll_eq_paid {market : Address} {payouts : List Payout} {ledgers : Sided RefusingToken}
    (payable : Payable market ledgers payouts) :
    ∃ last, payAll market ledgers payouts = .paid last := by
  induction payouts generalizing ledgers with
  | nil => exact ⟨ledgers, rfl⟩
  | cons payout rest ih =>
    obtain ⟨next, made, later⟩ := payable.step
    obtain ⟨last, paid⟩ := ih later
    exact ⟨last, by simp only [payAll, made, paid]⟩

end Payout

end DoubleAuction
