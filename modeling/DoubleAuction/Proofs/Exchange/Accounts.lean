import DoubleAuction.Proofs.Exchange.Steps
import DoubleAuction.Proofs.Matching.Conservation

/-! # Escrow accounts

An account writes down, from the steps of an exchange and the answers to them, what has passed
through the escrow of a side (`Account.record`). From the opening of an exchange on, and as long as
no payout is lost on its way back, the account agrees with the book and the ledger: accepted orders
either rest, were paid or were retained, and the market holds what came in and was not paid out
(`SideInvariant`). Each kind of step preserves the invariants of both sides: a change on a ledger
(`SideInvariants.setLedger`), an order (`SideInvariants.place`), a tick that pays
(`SideInvariants.cleared`) and a tick whose payouts came back (`SideInvariants.undone`).
-/

namespace DoubleAuction

open Exchange (Step Answer StepEnd Quiet)

/-- What has passed through the escrow of a side. -/
structure Account where
  /-- Created on the ledger, for anyone. -/
  minted : Nat := 0
  /-- Created for the market. -/
  issued : Nat := 0
  /-- Sent to the market. -/
  deposited : Nat := 0
  /-- The quantities of all orders accepted. -/
  accepted : Nat := 0
  /-- Paid out by ticks that went through. -/
  paid : Nat := 0
  /-- Retained in the fills of those ticks. -/
  retained : Nat := 0
  deriving DecidableEq, Repr

namespace Account

/-- Units were created for a recipient. -/
def issue (account : Account) (market recipient : Address) (amount : Amount) : Account :=
  { account with
    minted := account.minted + amount.toNat
    issued := account.issued + if market = recipient then amount.toNat else 0 }

/-- Units were sent to a recipient. -/
def send (account : Account) (market recipient : Address) (amount : Amount) : Account :=
  { account with
    deposited := account.deposited + if market = recipient then amount.toNat else 0 }

/-- An order was accepted. -/
def accept (account : Account) (quantity : UInt64) : Account :=
  { account with accepted := account.accepted + quantity.toNat }

/-- Fills were paid. -/
def clear (account : Account) (side : Side) (fills : List Fill) : Account :=
  { account with
    paid := account.paid + owed fills side
    retained := account.retained + retainedBy fills side }

/-- Enters a step and the answer to it. -/
def record (market : Address) (side : Side) (account : Account) : Step → Answer → Account
  | .issue other _ recipient amount, .done true =>
    if other = side then account.issue market recipient amount else account
  | .send other _ recipient amount, .done true =>
    if other = side then account.send market recipient amount else account
  | .transfer other _ recipient amount, .done true =>
    if other = side then account.send market recipient amount else account
  | .place other _ _, .placed (.accepted order _) =>
    if other = side then account.accept order.quantity else account
  | .tick _ _, .ticked report => account.clear side report.fills
  | _, _ => account

/-- The account of a side after steps and the answers to them. -/
def replay (market : Address) (side : Side) (account : Account) (steps : List Step)
    (answers : List Answer) : Account :=
  (steps.zip answers).foldl (fun account entry => account.record market side entry.1 entry.2)
    account

/-- Nothing is entered for a quiet step. -/
theorem record_of_quiet {step : Step} {answer : Answer} (quiet : Quiet step answer)
    (market : Address) (side : Side) (account : Account) :
    account.record market side step answer = account := by
  cases quiet with
  | failed => cases step <;> rfl
  | _ => rfl

end Account

namespace Claims

/-- The latest deposit on a ledger, as long as no order has claimed it. -/
def pending (claims : Claims) (market : Address) (token : Token) : Nat :=
  match token.lastSuccess with
  | none => 0
  | some transfer =>
    if transfer.recipient = market ∧ claims.isUsed token.address transfer.seq = false then
      transfer.amount.toNat
    else 0

variable {claims : Claims} {market : Address} {token next : Token}

/-- The more transfers are used, the less is pending. -/
theorem pending_le_of_extends {later : Claims} (more : claims.Extends later) (market : Address)
    (token : Token) : later.pending market token ≤ claims.pending market token := by
  unfold pending
  cases token.lastSuccess with
  | none => exact Nat.le_refl 0
  | some transfer =>
    dsimp only
    split
    case isTrue still =>
      have unused : claims.isUsed token.address transfer.seq = false := by
        rw [Bool.eq_false_iff]
        intro used
        rw [more _ _ used] at still
        cases still.2
      exact Nat.le_of_eq (if_pos ⟨still.1, unused⟩).symm
    case isFalse => exact Nat.zero_le _

/-- Only the claims, the name and the latest transfer matter to what is pending. -/
theorem pending_congr (claims : Claims) (market : Address) (address : next.address = token.address)
    (lastSuccess : next.lastSuccess = token.lastSuccess) :
    claims.pending market next = claims.pending market token := by
  simp only [pending, address, lastSuccess]

theorem pending_eq_zero_of_used {transfer : Transfer} (latest : token.lastSuccess = some transfer)
    (used : claims.isUsed token.address transfer.seq = true) : claims.pending market token = 0 := by
  simp [pending, latest, used]

end Claims

/-- An order that can be matched and does not belong to the market itself. -/
def Order.Foreign (market : Address) (order : Order) : Prop :=
  order.emptyField? = none ∧ order.trader ≠ market

theorem Order.Foreign.withQuantity {market : Address} {order : Order}
    (quantity : UInt64) (foreign : order.Foreign market) (positive : quantity ≠ 0) :
    (order.withQuantity quantity).Foreign market :=
  ⟨emptyField?_withQuantity foreign.1 positive, foreign.2⟩

/-- What stays true of one side of an exchange. -/
structure SideInvariant (claims : Claims) (market : Address) (side : Side) (currency : Address)
    (heap : KeyHeap) (token : Token) (account : Account) : Prop where
  address : token.address = currency
  owned : heap.owner = market
  resting : heap.Rests side (·.Foreign market)
  /-- The latest transfer to the market came from somebody else. -/
  latest : ∀ transfer, token.lastSuccess = some transfer → transfer.recipient = market →
    transfer.sender ≠ market
  supply : token.totalSupply = account.minted
  escrow : account.accepted = heap.committed side + account.paid + account.retained
  held : (token.balance market).toNat + account.paid = account.issued + account.deposited
  funded : account.accepted + claims.pending market token ≤ account.deposited

namespace SideInvariant

variable {claims : Claims} {market currency : Address} {side : Side} {heap : KeyHeap}
  {token next : Token} {account : Account}

/-- More used transfers do no harm. -/
theorem claimed {later : Claims} (more : claims.Extends later)
    (invariant : SideInvariant claims market side currency heap token account) :
    SideInvariant later market side currency heap token account := by
  have less := Claims.pending_le_of_extends more market token
  have funded := invariant.funded
  exact { invariant with funded := by omega }

theorem alike (same : token.Alike next)
    (invariant : SideInvariant claims market side currency heap token account) :
    SideInvariant claims market side currency heap next account where
  address := same.address.trans invariant.address
  owned := invariant.owned
  resting := invariant.resting
  latest transfer found := invariant.latest transfer (same.lastSuccess ▸ found)
  supply := same.totalSupply.trans invariant.supply
  escrow := invariant.escrow
  held := by
    rw [same.balance]
    exact invariant.held
  funded := by
    rw [Claims.pending_congr claims market same.address same.lastSuccess]
    exact invariant.funded

theorem issue {caller recipient : Address} {amount : Amount}
    (granted : token.issue caller recipient amount = (true, next))
    (invariant : SideInvariant claims market side currency heap token account) :
    SideInvariant claims market side currency heap next
      (account.issue market recipient amount) := by
  obtain ⟨address, lastSuccess, supply, balance⟩ := Token.issue_granted granted
  have before := invariant.supply
  have held := invariant.held
  have after := balance market
  refine
    { invariant with
      address := address.trans invariant.address
      latest := fun transfer found => invariant.latest transfer (lastSuccess ▸ found)
      supply := ?_
      held := ?_
      funded := ?_ }
  · simp only [Account.issue]
    omega
  · simp only [Account.issue]
    omega
  · rw [Claims.pending_congr claims market address lastSuccess]
    exact invariant.funded

/-- Whoever sends, as long as it is not the market, adds what the market receives. -/
theorem send {sender recipient : Address} {amount : Amount} (outsider : sender ≠ market)
    (sendable : token.canSend sender recipient amount = true)
    (invariant : SideInvariant claims market side currency heap token account) :
    SideInvariant claims market side currency heap
      ((token.move sender recipient amount).record sender recipient amount true)
      (account.send market recipient amount) := by
  have held := invariant.held
  have funded := invariant.funded
  have after := Token.balance_move_toNat sendable market
  rw [if_neg (Ne.symm outsider)] at after
  refine
    { invariant with
      address := (Token.address_move _ _ _ _).trans invariant.address
      latest := ?_
      supply := (Token.totalSupply_move sendable).trans invariant.supply
      held := ?_
      funded := ?_ }
  · rintro transfer ⟨⟩ _
    exact outsider
  · simp only [Account.send, Token.balance_record]
    omega
  · have pending : claims.pending market
        ((token.move sender recipient amount).record sender recipient amount true) ≤
          if market = recipient then amount.toNat else 0 := by
      simp only [Claims.pending, Token.record, ↓reduceIte]
      split
      case isTrue unused =>
        exact Nat.le_of_eq (if_pos unused.1.symm).symm
      case isFalse => exact Nat.zero_le _
    simp only [Account.send]
    omega

/-- An accepted order turns a pending deposit into committed escrow. -/
theorem place {caller : Address} {price : UInt64} {transfer : Transfer} (trader : caller ≠ .zero)
    (priced : price ≠ 0) (priceFits : price.toNat < fieldLimit)
    (latest : token.lastSuccess = some transfer)
    (claimable : claims.Claimable token.address caller market transfer)
    (invariant : SideInvariant claims market side currency heap token account) :
    SideInvariant (claims.use token.address transfer.seq) market side currency
      (heap.push market (Market.orderFrom side caller price transfer).key) token
      (account.accept (Market.orderFrom side caller price transfer).quantity) := by
  have quantity := Market.quantity_orderFrom claimable.fits side caller price
  have live : (Market.orderFrom side caller price transfer).emptyField? = none :=
    Market.emptyField?_orderFrom trader priced claimable.positive claimable.fits
  have other : caller ≠ market := by
    intro same
    apply invariant.latest transfer latest claimable.recipient
    exact claimable.sender.trans same
  have pending : claims.pending market token = transfer.amount.toNat := by
    simp [Claims.pending, latest, claimable.recipient, claimable.unused]
  have gone : (claims.use token.address transfer.seq).pending market token = 0 :=
    Claims.pending_eq_zero_of_used latest (Claims.isUsed_use claims token.address transfer.seq)
  have escrow := invariant.escrow
  have funded := invariant.funded
  have pushed := KeyHeap.escrowOf_push invariant.owned side (fun _ _ => true)
    (Market.orderFrom side caller price transfer).key
  rw [Market.ofKey_orderFrom priceFits claimable.fits, ← KeyHeap.committed_eq_escrowOf,
    ← KeyHeap.committed_eq_escrowOf] at pushed
  simp only [KeyHeap.escrowOfOrder, ↓reduceIte] at pushed
  refine
    { invariant with
      owned := (KeyHeap.owner_push heap market _).trans invariant.owned
      resting := ?_
      escrow := ?_
      funded := ?_ }
  · apply invariant.resting.push invariant.owned
    rw [Market.ofKey_orderFrom priceFits claimable.fits]
    exact ⟨live, other⟩
  · simp only [Account.accept]
    omega
  · simp only [Account.accept]
    omega

end SideInvariant

section Ticks

variable {market : Market} {ledgers last : Sided RefusingToken} {height : UInt64}
  {budget : Option Budget} {book : Book} {plan : Plan} {accounts : Side → Account}

/-- The invariant of both sides of a market with a book. -/
def SideInvariants (market : Market) (book : Book) (ledgers : Sided RefusingToken)
    (accounts : Side → Account) : Prop :=
  ∀ side, SideInvariant market.claims market.address side (book.currencies.get side)
    (book.heaps.get side) (ledgers.get side).token (accounts side)

/-- A change to the token of one side is entered on that side only. -/
theorem SideInvariants.setLedger (invariants : SideInvariants market book ledgers accounts)
    (side : Side) {ledger : RefusingToken} (enter : Account → Account)
    (changed : SideInvariant market.claims market.address side (book.currencies.get side)
      (book.heaps.get side) ledger.token (enter (accounts side))) :
    SideInvariants market book (ledgers.set side ledger) fun other =>
      if side = other then enter (accounts other) else accounts other := by
  intro other
  dsimp only
  rw [Sided.get_set]
  by_cases same : side = other
  · subst same
    rw [if_pos rfl, if_pos rfl]
    exact changed
  · rw [if_neg (Ne.symm same), if_neg same]
    exact invariants other

/-- An accepted order is entered on its side; on the other side, more transfers may be used. -/
theorem SideInvariants.place (invariants : SideInvariants market book ledgers accounts)
    {side : Side} {caller : Address} {price : UInt64} {transfer : Transfer}
    (trader : caller ≠ .zero) (priced : price ≠ 0) (priceFits : price.toNat < fieldLimit)
    (latest : (ledgers.get side).token.lastSuccess = some transfer)
    (claimable : market.claims.Claimable (ledgers.get side).token.address caller market.address
      transfer) :
    SideInvariants
      { market with claims := market.claims.use (ledgers.get side).token.address transfer.seq }
      (book.setHeap side ((book.heaps.get side).push market.address
        (Market.orderFrom side caller price transfer).key))
      ledgers fun other =>
        if side = other then
          (accounts other).accept (Market.orderFrom side caller price transfer).quantity
        else accounts other := by
  intro other
  simp only [Book.setHeap, Sided.get_set]
  by_cases same : side = other
  · subst same
    rw [if_pos rfl, if_pos rfl]
    exact (invariants side).place trader priced priceFits latest claimable
  · rw [if_neg (Ne.symm same), if_neg same]
    exact (invariants other).claimed claimable.extends

/-- The market has no orders of its own. -/
theorem SideInvariants.foreign (invariants : SideInvariants market book ledgers accounts)
    (side : Side) : (book.heaps.get side).Rests side (·.trader ≠ market.address) :=
  fun key member => ((invariants side).resting key member).2

/-- A tick whose payouts are all made enters its fills in the accounts. -/
theorem SideInvariants.cleared (invariants : SideInvariants market book ledgers accounts)
    (plans : Market.Planned market ledgers height budget book plan)
    (run : Payout.payAll market.address ledgers plan.payouts = .paid last) (side : Side) :
    SideInvariant market.claims market.address side (book.currencies.get side)
      (plan.heaps.get side) (last.get side).token ((accounts side).clear side plan.fills) := by
  have invariant := invariants side
  obtain ⟨address, supply⟩ : (last.get side).token.address = (ledgers.get side).token.address ∧
      (last.get side).token.totalSupply = (ledgers.get side).token.totalSupply :=
    Payout.frame_of_payAll run rfl side
  have paid := plans.held invariants.foreign run side
  have committed := plans.committed side
  have escrow := invariant.escrow
  have held := invariant.held
  have funded := invariant.funded
  have latest := Payout.lastSuccess_of_paid run side
  refine
    { address := address.trans invariant.address
      owned := plans.owner side
      resting := (plans.rests (fun _ quantity foreign positive _ =>
        foreign.withQuantity quantity positive) invariant.resting).1
      latest := ?_
      supply := supply.trans invariant.supply
      escrow := ?_
      held := ?_
      funded := ?_ }
  · intro transfer found toMarket
    rcases latest with same | ⟨payout, member, _, seq, now⟩
    · exact invariant.latest transfer (same ▸ found) toMarket
    · obtain rfl := Option.some.inj (now.symm.trans found)
      exact absurd toMarket (plans.payee_ne invariants.foreign member)
  · simp only [Account.clear, Book.committed] at committed ⊢
    omega
  · simp only [Account.clear]
    omega
  · rcases latest with same | ⟨payout, member, _, seq, now⟩
    · rw [Claims.pending_congr _ _ address same]
      exact funded
    · have nothing : market.claims.pending market.address (last.get side).token = 0 := by
        simp [Claims.pending, now, plans.payee_ne invariants.foreign member]
      simp only [Account.clear]
      omega

/-- A tick whose payouts all came back leaves the accounts as they were: what came back is retired
and does not count as a deposit. -/
theorem SideInvariants.undone (invariants : SideInvariants market book ledgers accounts)
    (plans : Market.Planned market ledgers height budget book plan) {refused : Payout}
    {returned : List Payout}
    (run : Payout.payAll market.address ledgers plan.payouts = .undone last refused returned)
    (side : Side) :
    SideInvariant (market.claims.retireReturned last returned) market.address side
      (book.currencies.get side) (book.heaps.get side) (last.get side).token (accounts side) := by
  have invariant := (invariants side).claimed
    (Claims.extends_retireReturned market.claims last returned)
  obtain ⟨address, supply⟩ : (last.get side).token.address = (ledgers.get side).token.address ∧
      (last.get side).token.totalSupply = (ledgers.get side).token.totalSupply :=
    Payout.frame_of_payAll run rfl side
  have balance := Payout.balance_of_undone run side
  have latest := Payout.lastSuccess_of_undone run side
  split at latest
  case h_1 payout first =>
    obtain ⟨seq, now⟩ := latest
    obtain ⟨rest, split⟩ := Payout.prefix_of_undone run
    have member : payout ∈ plan.payouts := by
      rw [split]
      exact List.mem_append_left _ (Payout.of_find?_side first).1
    have back := Payout.any_side_iff.mpr ⟨payout, Payout.of_find?_side first⟩
    have transfer : Ledger.lastTransfer (last.get side) = _ := now
    have funded := invariant.funded
    have nothing : (market.claims.retireReturned last returned).pending market.address
        (last.get side).token = 0 :=
      Claims.pending_eq_zero_of_used now (Claims.isUsed_retireReturned market.claims back transfer)
    refine
      { address := address.trans invariant.address
        owned := invariant.owned
        resting := invariant.resting
        latest := ?_
        supply := supply.trans invariant.supply
        escrow := invariant.escrow
        held := ?_
        funded := by omega }
    · intro transfer found _
      obtain rfl := Option.some.inj (now.symm.trans found)
      exact plans.payee_ne invariants.foreign member
    · rw [balance]
      exact invariant.held
  case h_2 => exact invariant.alike ⟨address, latest, balance, supply⟩

end Ticks

end DoubleAuction
