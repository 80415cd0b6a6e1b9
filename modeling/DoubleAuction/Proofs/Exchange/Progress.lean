import DoubleAuction.Proofs.Exchange.Escrow
import DoubleAuction.Proofs.Market.Audit

/-! # Clearing never gets stuck

On a sound exchange whose ledgers refuse nothing, a tick passes its audit, because the resting
orders are live and the escrow is covered, and every payout is made, because no payee can hold more
than the supply (`tick_of_sound`). Only the volumes may grow too wide. Soundness and the lack of
refusals last over any run, so this holds in every state that is reached
(`Exchange.tick_succeeds`).
-/

namespace DoubleAuction

open Exchange (Step Answer)

section Clearing

variable {market : Market} {ledgers : Sided RefusingToken} {height : UInt64}
  {budget : Option Budget} {book : Book} {accounts : Side → Account}

/-- What rests is covered by what the market holds. -/
theorem committed_le_held (invariants : SideInvariants market book ledgers accounts) (side : Side) :
    (book.heaps.get side).committed side ≤
      ((ledgers.get side).token.balance market.address).toNat := by
  have escrow := (invariants side).escrow
  have held := (invariants side).held
  have funded := (invariants side).funded
  omega

/-- A tick on a sound exchange succeeds, unless the volume does not fit. -/
theorem tick_of_sound (bound : market.book = some book)
    (invariants : SideInvariants market book ledgers accounts)
    (supply : ∀ side, (accounts side).minted < Amount.size)
    (unrefused : ∀ side, (ledgers.get side).refusals = [])
    (height : UInt64) (budget : Option Budget) :
    (∃ report, (market.tick ledgers height budget).result = .ok report) ∨
      market.gateOpen height = true ∧
        UInt64.size ≤ (market.carriedVolume (market.epochAt height)).toNat +
          owed (clear book.heaps market.address (budget.getD market.defaultBudget)).fills .buy ∧
        ∃ error, (market.tick ledgers height budget).result = .error error ∧
          error.isVolumeTooWide = true := by
  have named := Market.bookFor_eq_ok_iff.mpr ⟨bound, fun side => (invariants side).address⟩
  have live (side : Side) : (book.heaps.get side).Rests side fun order =>
      order.emptyField? = none := fun key member => ((invariants side).resting key member).1
  obtain ⟨fills, cleared⟩ := clear_of_live (fun side => (invariants side).owned) live
    (budget.getD market.defaultBudget)
  have held := committed_le_held invariants
  rw [← Clearing.result_eq_ok cleared]
  have deliverable : Deliverable market.address ledgers fills := by
    constructor
    · intro payout _
      exact RefusingToken.accepts_of_unrefused (unrefused payout.side) payout.payee
    · intro side owner other
      have due := receivedBy_le_owed fills side owner
      have enough := (Market.covered_iff cleared side _).mpr (Nat.le_add_right_of_le (held side))
      have together := Token.balance_add_balance_le_totalSupply (ledgers.get side).token other
      have minted := (invariants side).supply
      have bound := supply side
      omega
  apply Market.tick_of_covered named cleared deliverable
  intro _ side
  exact Nat.le_add_right_of_le (held side)

end Clearing

namespace Account

/-- What was created on a ledger is never taken off the account. -/
theorem minted_le_record (market : Address) (side : Side) (account : Account) (step : Step)
    (answer : Answer) : account.minted ≤ (account.record market side step answer).minted := by
  unfold record
  split
  case h_1 =>
    split
    case isTrue => exact Nat.le_add_right _ _
    case isFalse => exact Nat.le_refl _
  case h_5 => exact Nat.le_refl _
  case h_6 => exact Nat.le_refl _
  all_goals split <;> exact Nat.le_refl _

theorem minted_le_replay (market : Address) (side : Side) (account : Account) (steps : List Step)
    (answers : List Answer) :
    account.minted ≤ (account.replay market side steps answers).minted := by
  induction steps generalizing account answers with
  | nil => exact Nat.le_refl _
  | cons step rest ih =>
    cases answers with
    | nil => exact Nat.le_refl _
    | cons answer others =>
      exact Nat.le_trans (minted_le_record market side account step answer) (ih _ others)

end Account

namespace Exchange

/-- Whether a step makes a ledger refuse transfers. -/
def Step.refuses : Step → Bool
  | .refuse .. => true
  | _ => false

section Steps

variable {exchange : Exchange}

theorem refusals_set (unrefused : ∀ side, (exchange.ledgers.get side).refusals = [])
    {ledger : RefusingToken} (free : ledger.refusals = []) (side other : Side) :
    ((exchange.ledgers.set side ledger).get other).refusals = [] := by
  rw [Sided.get_set]
  split
  case isTrue => exact free
  case isFalse => exact unrefused other

/-- Only a step that asks for refusals brings them about. -/
theorem unrefused_step (unrefused : ∀ side, (exchange.ledgers.get side).refusals = []) {step : Step}
    (tame : step.refuses = false) (side : Side) :
    ((exchange.step step).2.ledgers.get side).refusals = [] := by
  cases step with
  | issue on caller recipient amount =>
    simp only [Exchange.step, setToken]
    refine refusals_set unrefused ?_ on side
    exact unrefused on
  | send on sender recipient amount =>
    simp only [Exchange.step, setToken]
    refine refusals_set unrefused ?_ on side
    exact unrefused on
  | transfer on sender recipient amount =>
    have free := RefusingToken.refusals_transfer (unrefused on) sender recipient amount
    exact refusals_set unrefused free on side
  | refuse => cases tame
  | place on caller price =>
    simp only [step]
    split
    · exact unrefused side
    · exact unrefused side
  | tick height budget =>
    have ended := Market.tick_end exchange.market exchange.ledgers height budget
    simp only [step]
    generalize exchange.market.tick exchange.ledgers height budget = ticked at ended ⊢
    cases ended with
    | unplanned => exact unrefused side
    | early => exact unrefused side
    | cleared _ run => exact Payout.unrefused_payAll unrefused run rfl side
    | undone _ run => exact Payout.unrefused_payAll unrefused run rfl side
    | stuck _ run => exact Payout.unrefused_payAll unrefused run rfl side

/-- No payout is lost on a sound exchange whose ledgers refuse nothing. -/
theorem lostPayout_of_sound {accounts : Side → Account} (sound : exchange.Sound accounts)
    (supply : ∀ side, (accounts side).minted < Amount.size)
    (unrefused : ∀ side, (exchange.ledgers.get side).refusals = []) (step : Step) :
    (exchange.step step).1.lostPayout = false := by
  cases step with
  | place side caller price =>
    have ended := Market.place_end exchange.market side (exchange.ledgers.get side) caller price
    simp only [Exchange.step]
    generalize exchange.market.place side (exchange.ledgers.get side) caller price = placed at ended
    cases ended <;> rfl
  | tick height budget =>
    obtain ⟨book, bound, invariants⟩ := sound
    simp only [Exchange.step]
    rcases tick_of_sound bound invariants supply unrefused height budget with
      ⟨report, cleared⟩ | ⟨_, _, error, failed, volume⟩
    · rw [cleared]
      rfl
    · rw [failed]
      exact Error.isPayoutNotReturned_of_volume volume
  | _ => rfl

/-- Over a run without refusals no payout is lost and nothing is refused. -/
theorem run_of_sound {accounts : Side → Account} (sound : exchange.Sound accounts)
    (unrefused : ∀ side, (exchange.ledgers.get side).refusals = []) {steps : List Step}
    (outsiders : ∀ step ∈ steps, step.sender? ≠ some exchange.market.address)
    (tame : ∀ step ∈ steps, step.refuses = false)
    (supply : ∀ side, ((accounts side).replay exchange.market.address side steps
      (exchange.run steps).1).minted < Amount.size) :
    (∀ answer ∈ (exchange.run steps).1, answer.lostPayout = false) ∧
      ∀ side, ((exchange.run steps).2.ledgers.get side).refusals = [] := by
  induction steps generalizing exchange accounts with
  | nil => exact ⟨fun _ member => absurd member List.not_mem_nil, unrefused⟩
  | cons first rest ih =>
    have before (side : Side) : (accounts side).minted < Amount.size :=
      Nat.lt_of_le_of_lt (Account.minted_le_replay _ side _ _ _) (supply side)
    have kept := lostPayout_of_sound sound before unrefused first
    have next := sound_step sound first (outsiders first List.mem_cons_self) kept
    have address := (follows_step exchange first).address
    have later := ih next (unrefused_step unrefused (tame first List.mem_cons_self))
      (fun step member => by
        rw [address]
        exact outsiders step (List.mem_cons_of_mem _ member))
      (fun step member => tame step (List.mem_cons_of_mem _ member))
      (fun side => by
        rw [address]
        exact supply side)
    refine ⟨?_, later.2⟩
    intro answer member
    rcases List.mem_cons.mp member with rfl | after
    · exact kept
    · exact later.1 answer after

end Steps

theorem Opening.unrefused {exchange : Exchange} (opens : exchange.Opening) (side : Side) :
    (exchange.ledgers.get side).refusals = [] := by
  obtain ⟨_, _, _, _⟩ := opens
  simp only [Sided.get_ofFn, RefusingToken.ofToken]

/-- In every state that a run without refusals reaches, a tick at any height and with any budget
succeeds, unless the volume of the call and of its epoch so far does not fit 64 bits. -/
theorem tick_succeeds {exchange : Exchange} (opens : exchange.Opening) {steps : List Step}
    (outsiders : ∀ step ∈ steps, step.sender? ≠ some exchange.market.address)
    (tame : ∀ step ∈ steps, step.refuses = false)
    (supply : ∀ side, (exchange.account side steps).minted < Amount.size)
    (height : UInt64) (budget : Option Budget) :
    let reached := (exchange.run steps).2
    let ticked := reached.market.tick reached.ledgers height budget
    (∃ report, ticked.result = .ok report) ∨
      ∃ book, reached.market.book = some book ∧ reached.market.gateOpen height = true ∧
        UInt64.size ≤ (reached.market.carriedVolume (reached.market.epochAt height)).toNat +
          owed (clear book.heaps reached.market.address
            (budget.getD reached.market.defaultBudget)).fills .buy ∧
        ∃ error, ticked.result = .error error ∧ error.isVolumeTooWide = true := by
  obtain ⟨kept, unrefused⟩ := run_of_sound opens.sound opens.unrefused outsiders tame supply
  obtain ⟨book, bound, invariants⟩ := sound_run opens.sound outsiders kept
  have ended := tick_of_sound bound invariants supply unrefused height budget
  exact ended.imp id fun wide => ⟨book, bound, wide⟩

/-- The tick on a funded bid and a funded ask succeeds. -/
theorem fresh_funded_tick :
    ∃ report, ((fresh.run funded).2.market.tick (fresh.run funded).2.ledgers 100 none).result =
      .ok report := by
  have supply (side : Side) : (fresh.account side funded).minted < Amount.size := by
    cases side <;> decide +kernel
  rcases tick_succeeds fresh_opens (by decide) (by decide) supply 100 none with
    succeeded | ⟨_, _, _, _, error, failed, _⟩
  · exact succeeded
  · have fine : ((fresh.run funded).2.market.tick (fresh.run funded).2.ledgers 100 none).error? =
        none := by decide +kernel
    rw [Ticked.error?_eq_some_iff.mpr failed] at fine
    cases fine

end Exchange

end DoubleAuction
