import DoubleAuction.Ledger.Refusal
import DoubleAuction.Market.Calls
import DoubleAuction.Proofs.Market.Admissions
import DoubleAuction.Proofs.Market.Ticks
import DoubleAuction.Proofs.Matching.Priority

/-! # The book in every state of a market

A market that was initialised owns two different heaps in order, in which every key is that of a
live order (`Book.Intact`). Whoever calls it, with whatever ledgers, a call leaves the book as it
is, adds a live order to one heap, or goes along a path of matches (`BookStep`, `book_call`), and
each of these keeps the book intact. So it is in every state of the market (`book_invariant`).
-/

namespace DoubleAuction

/-- A book that its owner can work on: two different heaps of theirs, in order, with live orders. -/
structure Book.Intact (book : Book) (owner : Address) : Prop where
  owned : ∀ side, (book.heaps.get side).owner = owner
  separate : book.heaps.buy.id ≠ book.heaps.sell.id
  ordered : ∀ side, KeyHeap.Ordered (book.heaps.get side).keys
  live : ∀ side, (book.heaps.get side).Rests side fun order => order.emptyField? = none

/-- What a call may do to the book of a market. -/
inductive BookStep (operator : Address) (book : Book) : Book → Prop
  | kept : BookStep operator book book
  | pushed {side : Side} {order : Order} (live : order.emptyField? = none)
      (readBack : Order.ofKey side order.key = order) :
      BookStep operator book
        (book.setHeap side ((book.heaps.get side).push operator order.key))
  | matched {fills : List Fill} {heaps : Sided KeyHeap}
      (path : MatchPath operator book.heaps fills heaps) :
      BookStep operator book { book with heaps }

namespace BookStep

variable {operator : Address} {book next : Book}

theorem currencies (step : BookStep operator book next) : next.currencies = book.currencies := by
  cases step <;> rfl

/-- Neither owners nor names of the heaps change. -/
theorem frame (step : BookStep operator book next) (side : Side) :
    (next.heaps.get side).owner = (book.heaps.get side).owner ∧
      (next.heaps.get side).id = (book.heaps.get side).id := by
  cases step with
  | kept => exact ⟨rfl, rfl⟩
  | @pushed other =>
    simp only [Book.setHeap, Sided.get_set]
    split
    case isTrue same =>
      subst same
      exact ⟨KeyHeap.owner_push _ _ _, KeyHeap.id_push _ _ _⟩
    case isFalse => exact ⟨rfl, rfl⟩
  | matched path => exact path.frame side

/-- An intact book stays intact. -/
theorem intact (step : BookStep operator book next) (intact : book.Intact operator) :
    next.Intact operator where
  owned side := (step.frame side).1.trans (intact.owned side)
  separate := by
    have buy : next.heaps.buy.id = book.heaps.buy.id := (step.frame .buy).2
    have sell : next.heaps.sell.id = book.heaps.sell.id := (step.frame .sell).2
    rw [buy, sell]
    exact intact.separate
  ordered := by
    intro side
    cases step with
    | kept => exact intact.ordered side
    | @pushed other =>
      simp only [Book.setHeap, Sided.get_set]
      split
      case isTrue same =>
        subst same
        exact KeyHeap.ordered_push (intact.ordered side) operator _
      case isFalse => exact intact.ordered side
    | matched path => exact path.ordered intact.ordered side
  live := by
    intro side
    cases step with
    | kept => exact intact.live side
    | @pushed other order live readBack =>
      simp only [Book.setHeap, Sided.get_set]
      split
      case isTrue same =>
        subst same
        refine (intact.live side).push (intact.owned side) ?_
        rw [readBack]
        exact live
      case isFalse => exact intact.live side
    | matched path => exact path.live intact.owned (intact.live side)

end BookStep

namespace Market

section Initializing

theorem create_eq_ok {address : Address} {config : Config} {anchor : UInt64} {created : Market}
    (new : create address config anchor = .ok created) :
    created = ⟨address, config, anchor, none, .empty, 0, ⟨0⟩⟩ := by
  obtain ⟨_, _, new⟩ := bind_eq_ok.mp new
  exact (Except.ok.inj (guard_eq_ok.mp new).2).symm

theorem takeOver_of_owner {market caller : Address} {heap : KeyHeap}
    (owned : heap.owner = market ∨ heap.owner = caller) :
    takeOver market caller heap = { heap with owner := market } := by
  unfold takeOver
  split
  case isTrue mine => rw [← mine]
  case isFalse notMine =>
    have theirs := owned.resolve_left notMine
    simp only [KeyHeap.setOwner, theirs, ↓reduceIte]

theorem checkOwner_eq_ok {market caller : Address} {heap : KeyHeap} {accepted : Unit}
    (checked : checkOwner market caller heap = .ok accepted) :
    heap.owner = market ∨ heap.owner = caller :=
  (require_eq_ok.mp checked).1

/-- A market that was initialised has two different currencies and owns two different heaps, with
the keys that they had. -/
theorem init_eq_ok {market next : Market} {caller : Address} {heaps : Sided KeyHeap}
    {currencies : Sided Address} (initialised : market.init caller heaps currencies = .ok next) :
    heaps.buy.id ≠ heaps.sell.id ∧ currencies.buy ≠ currencies.sell ∧
      next = { market with
        book :=
          some ⟨heaps.map fun heap => { heap with owner := market.address }, currencies⟩ } := by
  obtain ⟨_, initialised⟩ := guard_eq_ok.mp initialised
  obtain ⟨separate, initialised⟩ := guard_eq_ok.mp initialised
  obtain ⟨distinct, initialised⟩ := guard_eq_ok.mp initialised
  obtain ⟨_, first, initialised⟩ := bind_eq_ok.mp initialised
  obtain ⟨_, second, initialised⟩ := bind_eq_ok.mp initialised
  cases initialised
  refine ⟨separate, distinct, ?_⟩
  simp only [Sided.map, takeOver_of_owner (checkOwner_eq_ok first),
    takeOver_of_owner (checkOwner_eq_ok second)]

/-- A market is initialised at most once. -/
theorem init_of_bound {market : Market} {book : Book} (bound : market.book = some book)
    (caller : Address) (heaps : Sided KeyHeap) (currencies : Sided Address) :
    market.init caller heaps currencies = .error .alreadyInitialized := by
  simp only [init, bound, Option.isSome_some, ↓reduceIte]
  rfl

end Initializing

section Calls

variable {L : Type u} [Ledger L] {market : Market} {book : Book}

theorem bound_of_bookFor {ledgers : Sided L} (named : market.bookFor ledgers = .ok book) :
    market.book = some book := by
  unfold bookFor at named
  cases bound : market.book with
  | none =>
    rw [bound] at named
    cases named
  | some other =>
    rw [bound] at named
    obtain ⟨_, _, named⟩ := bind_eq_ok.mp named
    obtain ⟨_, _, named⟩ := bind_eq_ok.mp named
    exact congrArg some (Except.ok.inj named)

/-- The heaps of a plan are reached by matches, whatever the ledgers. -/
theorem path_of_plan {ledgers : Sided L} {height : UInt64} {budget : Option Budget} {plan : Plan}
    (bound : market.book = some book)
    (found : market.plan? ledgers height budget = .ok (some plan)) :
    MatchPath market.address book.heaps plan.fills plan.heaps := by
  obtain ⟨other, planning⟩ := planning_of_found found
  obtain rfl : book = other :=
    Option.some.inj (bound.symm.trans (bound_of_bookFor planning.named))
  have path := path_matchTops market.address book.heaps (budget.getD market.defaultBudget)
  rw [← clear_of_owned (owned_of_clear planning.cleared), ← planning.heaps,
    ← Clearing.result_eq_ok planning.cleared] at path
  exact path

/-- Two states of a market that agree on what is fixed when it is made. -/
structure SameTerms (old new : Market) : Prop where
  address : new.address = old.address
  config : new.config = old.config
  anchor : new.anchor = old.anchor

theorem SameTerms.refl (market : Market) : SameTerms market market := ⟨rfl, rfl, rfl⟩

theorem SameTerms.trans {first middle last : Market} (left : SameTerms first middle)
    (right : SameTerms middle last) : SameTerms first last :=
  ⟨right.address.trans left.address, right.config.trans left.config,
    right.anchor.trans left.anchor⟩

/-- What a tick does to the book is to follow matches, if it does anything. -/
theorem book_tick (bound : market.book = some book) (ledgers : Sided L) (height : UInt64)
    (budget : Option Budget) :
    ∃ next, (market.tick ledgers height budget).market.book = some next ∧
      BookStep market.address book next ∧
      SameTerms market (market.tick ledgers height budget).market := by
  unfold tick
  split
  case h_1 => exact ⟨book, bound, .kept, .refl market⟩
  case h_2 => exact ⟨book, bound, .kept, .refl market⟩
  case h_3 plan found =>
    split
    case h_1 =>
      refine ⟨{ book with heaps := plan.heaps }, ?_, .matched (path_of_plan bound found), rfl, rfl,
        rfl⟩
      simp only [commit, bound, Option.map_some]
    case h_2 => exact ⟨book, bound, .kept, rfl, rfl, rfl⟩
    case h_3 => exact ⟨book, bound, .kept, .refl market⟩

/-- What placing an order does to the book is to add a live order, if it does anything. -/
theorem book_place (bound : market.book = some book) {side : Side} {ledger : L} {caller : Address}
    {price : UInt64} {admission : Admission} {last : Market}
    (placed : market.place side ledger caller price = .ok (admission, last)) :
    ∃ next, last.book = some next ∧ BookStep market.address book next ∧ SameTerms market last := by
  have ended := place_end market side ledger caller price
  rw [placed] at ended
  cases ended with
  | rejected => exact ⟨book, bound, .kept, .refl market⟩
  | accepted also _ trader priced priceFits _ claimable =>
    obtain rfl := Option.some.inj (bound.symm.trans also)
    refine ⟨_, rfl, .pushed ?_ (ofKey_orderFrom priceFits claimable.fits), rfl, rfl, rfl⟩
    exact emptyField?_orderFrom trader priced claimable.positive claimable.fits

theorem call_init_of_bound (bound : market.book = some book) (caller : Address)
    (heaps : Sided KeyHeap) (currencies : Sided Address) :
    market.call (.init caller heaps currencies : Call L) =
      (.failed .alreadyInitialized, market) := by
  simp only [call, init_of_bound bound]

/-- Every call on a market with a book takes a step with it and keeps the terms of the market. -/
theorem book_call (bound : market.book = some book) (call : Call L) :
    ∃ next, (market.call call).2.book = some next ∧ BookStep market.address book next ∧
      SameTerms market (market.call call).2 := by
  cases call with
  | init caller heaps currencies =>
    rw [call_init_of_bound bound]
    exact ⟨book, bound, .kept, .refl market⟩
  | place side ledger caller price =>
    simp only [Market.call]
    cases placed : market.place side ledger caller price with
    | ok outcome => exact book_place bound placed
    | error error => exact ⟨book, bound, .kept, .refl market⟩
  | tick ledgers height budget => exact book_tick bound ledgers height budget

/-- A run on a market with an intact book keeps it intact, and keeps the currencies and terms. -/
theorem book_run (bound : market.book = some book) (intact : book.Intact market.address)
    (calls : List (Call L)) :
    ∃ next, (market.run calls).2.book = some next ∧ next.Intact market.address ∧
      next.currencies = book.currencies ∧ SameTerms market (market.run calls).2 := by
  induction calls generalizing market book with
  | nil => exact ⟨book, bound, intact, rfl, .refl market⟩
  | cons first rest ih =>
    obtain ⟨middle, stillBound, step, terms⟩ := book_call bound first
    have stillIntact := step.intact intact
    rw [← terms.address] at stillIntact
    obtain ⟨last, lastBound, lastIntact, currencies, lastTerms⟩ := ih stillBound stillIntact
    rw [terms.address] at lastIntact
    exact ⟨last, lastBound, lastIntact, currencies.trans step.currencies, terms.trans lastTerms⟩

end Calls

/-- A market that was initialised with heaps in order and live orders keeps its book intact in every
state that calls lead to, whoever makes them and with whatever ledgers: both heaps stay different
heaps of the market, in order, and every key in them is the key of a live order. The currencies and
terms of the market are fixed, and it is never initialised again. -/
theorem book_invariant {L : Type u} [Ledger L] {address : Address} {config : Config}
    {anchor : UInt64} {created market : Market}
    (new : create address config anchor = .ok created) {caller : Address} {heaps : Sided KeyHeap}
    {currencies : Sided Address} (initialised : created.init caller heaps currencies = .ok market)
    (checked : ∀ side, (heaps.get side).checkOrder = .ok ())
    (live : ∀ side, ∀ key ∈ (heaps.get side).keys.toList,
      ∃ order, Order.ofLiveKey side key = .ok order) (calls : List (Call L)) :
    let last := (market.run calls).2
    (∃ book, last.book = some book ∧ book.currencies = currencies ∧
      book.heaps.buy.id ≠ book.heaps.sell.id ∧ ∀ side,
        (book.heaps.get side).owner = last.address ∧ (book.heaps.get side).checkOrder = .ok () ∧
          ∀ key ∈ (book.heaps.get side).keys.toList,
            ∃ order, Order.ofLiveKey side key = .ok order ∧ order.key = key) ∧
      currencies.buy ≠ currencies.sell ∧
      last.address = address ∧ last.config = config ∧ last.anchor = anchor ∧
      ∀ (caller : Address) (heaps : Sided KeyHeap) (currencies : Sided Address),
        last.call (.init caller heaps currencies : Call L) =
          (.failed .alreadyInitialized, last) := by
  obtain rfl := create_eq_ok new
  obtain ⟨separate, distinct, opened⟩ := init_eq_ok initialised
  have bound := congrArg Market.book opened
  have owner : market.address = address := congrArg Market.address opened
  have intact : Book.Intact
      ⟨heaps.map fun heap => { heap with owner := address }, currencies⟩ market.address := by
    refine ⟨?_, separate, ?_, ?_⟩
    · intro side
      rw [Sided.get_map, owner]
    · intro side
      rw [Sided.get_map]
      exact KeyHeap.checkOrder_eq_ok_iff.mp (checked side)
    · intro side key member
      rw [Sided.get_map] at member
      obtain ⟨order, accepted⟩ := live side key member
      exact (Order.ofLiveKey_eq_ok_iff.mp accepted).1
  intro last
  obtain ⟨book, lastBound, lastIntact, same, terms⟩ := book_run bound intact calls
  refine ⟨⟨book, lastBound, same, lastIntact.separate, ?_⟩, distinct, terms.address.trans owner,
    terms.config.trans (congrArg Market.config opened),
    terms.anchor.trans (congrArg Market.anchor opened), ?_⟩
  · intro side
    refine ⟨(lastIntact.owned side).trans terms.address.symm,
      KeyHeap.checkOrder_eq_ok_iff.mpr (lastIntact.ordered side), ?_⟩
    intro key member
    exact ⟨_, Order.ofLiveKey_eq_ok_iff.mpr ⟨lastIntact.live side key member, rfl⟩,
      Order.key_ofKey side key⟩
  · intro caller heaps currencies
    exact call_init_of_bound lastBound caller heaps currencies

/-- A bid in a heap of the caller and an ask in a heap of the market; the two cross. -/
def broughtHeaps : Sided KeyHeap where
  buy := ⟨⟨0xb1⟩, ⟨0x0a⟩, #[(Order.mk .buy 1200 1000 ⟨0xa0⟩).key]⟩
  sell := ⟨⟨0x51⟩, ⟨0x4d⟩, #[(Order.mk .sell 800 2000000 ⟨0xa2⟩).key]⟩

/-- The market that took both heaps over. -/
def broughtMarket : Market where
  address := ⟨0x4d⟩
  config := {}
  anchor := 0
  book := some ⟨broughtHeaps.map fun heap => { heap with owner := ⟨0x4d⟩ }, ⟨⟨0xc1⟩, ⟨0xc2⟩⟩⟩
  claims := .empty
  volume := 0
  volumeEpoch := ⟨0⟩

/-- Ledgers that hold the escrow of the two orders. -/
def broughtLedgers : Sided RefusingToken where
  buy := ⟨((Token.create ⟨0xc1⟩ ⟨0x15⟩).issue ⟨0x15⟩ ⟨0x4d⟩ 1000).2, []⟩
  sell := ⟨((Token.create ⟨0xc2⟩ ⟨0x15⟩).issue ⟨0x15⟩ ⟨0x4d⟩ 2000000).2, []⟩

/-- The market is initialised again, asked for an order without a deposit, and cleared twice: the
first time the second ledger refuses the buyer, the second time all is paid. -/
def broughtCalls : List (Call RefusingToken) :=
  [.init ⟨0x0a⟩ broughtHeaps ⟨⟨0xc1⟩, ⟨0xc2⟩⟩, .place .buy broughtLedgers.buy ⟨0xa1⟩ 900,
    .tick { broughtLedgers with sell := broughtLedgers.sell.refuse ⟨0xa0⟩ 1 } 100 none,
    .tick broughtLedgers 100 none]

/-- The bid is filled in the end, and the ask rests with what is left of it. -/
theorem broughtMarket_keeps_book :
    let last := (broughtMarket.run broughtCalls).2
    (last.book.map fun book => (book.heaps.buy.size, book.heaps.sell.size)) = some (0, 1) ∧
      ∃ book, last.book = some book ∧
        ∀ side, (book.heaps.get side).owner = last.address ∧
          (book.heaps.get side).checkOrder = .ok () := by
  have checked (side : Side) : (broughtHeaps.get side).checkOrder = .ok () := by
    cases side <;> decide +kernel
  have rests (side : Side) :
      (broughtHeaps.get side).Rests side fun order => order.emptyField? = none := by
    cases side <;> decide +kernel
  have live (side : Side) (key : Key) (member : key ∈ (broughtHeaps.get side).keys.toList) :
      ∃ order, Order.ofLiveKey side key = .ok order :=
    ⟨_, Order.ofLiveKey_eq_ok_iff.mpr ⟨rests side key member, rfl⟩⟩
  have initialised : (Market.mk ⟨0x4d⟩ {} 0 none .empty 0 ⟨0⟩).init ⟨0x0a⟩ broughtHeaps
      ⟨⟨0xc1⟩, ⟨0xc2⟩⟩ = .ok broughtMarket := rfl
  have new : create ⟨0x4d⟩ {} 0 = .ok ⟨⟨0x4d⟩, {}, 0, none, .empty, 0, ⟨0⟩⟩ := rfl
  obtain ⟨⟨book, bound, _, _, heaps⟩, _⟩ :=
    book_invariant new initialised checked live broughtCalls
  refine ⟨by decide +kernel, book, bound, ?_⟩
  intro side
  exact ⟨(heaps side).1, (heaps side).2.1⟩

end Market

end DoubleAuction
