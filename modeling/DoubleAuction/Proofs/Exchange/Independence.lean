import DoubleAuction.Market.Requests
import DoubleAuction.Proofs.Exchange.Escrow
import DoubleAuction.Proofs.Market.BookInvariant
import DoubleAuction.Proofs.Market.Placing

/-! # The sides do not interfere between ticks

Both sides go through one admission and one map of claims, but a request reads and writes only what
belongs to its side: the ledger, the heap, and the claims on the currency of that side. Two
exchanges that agree on a side (`Exchange.AlikeOn`) therefore answer a request on it alike
(`Exchange.step_congr`), and a request on the other side keeps every exchange as it is on this one
(`Exchange.step_frame`). Requests served on a side are then served as if they were alone
(`Exchange.serve_alone`), so it does not matter how the requests of the two sides interleave
(`Exchange.sides_independent`). The last step is where the two currencies have to differ.
-/

namespace DoubleAuction

namespace Interleaving

variable {α : Type u} {lefts rights merged : List α}

theorem swap (mixed : Interleaving lefts rights merged) : Interleaving rights lefts merged := by
  induction mixed with
  | nil => exact .nil
  | left _ ih => exact .right ih
  | right _ ih => exact .left ih

/-- One list after the other is an interleaving. -/
theorem append (lefts rights : List α) : Interleaving lefts rights (lefts ++ rights) := by
  induction lefts with
  | cons first rest ih => exact .left ih
  | nil =>
    induction rights with
    | nil => exact .nil
    | cons first rest ih => exact .right ih

/-- A test that tells the two lists apart finds the one that passes in the merge. -/
theorem filter_eq (mixed : Interleaving lefts rights merged) {test : α → Bool}
    (kept : ∀ entry ∈ lefts, test entry = true) (dropped : ∀ entry ∈ rights, test entry = false) :
    merged.filter test = lefts := by
  induction mixed with
  | nil => rfl
  | left _ ih =>
    rw [List.filter_cons_of_pos (kept _ List.mem_cons_self)]
    rw [ih (fun entry member => kept entry (List.mem_cons_of_mem _ member)) dropped]
  | right _ ih =>
    rw [List.filter_cons_of_neg (Bool.eq_false_iff.mp (dropped _ List.mem_cons_self))]
    exact ih kept fun entry member => dropped entry (List.mem_cons_of_mem _ member)

end Interleaving

namespace Market

/-- The currencies that are bound to a market. -/
def currencies? (market : Market) : Option (Sided Address) := market.book.map Book.currencies

/-- The two currencies of a market are different, once they are bound. -/
def Separate (market : Market) : Prop :=
  ∀ currencies, market.currencies? = some currencies → currencies.buy ≠ currencies.sell

/-- A name is that of the currency of another side. -/
def NamesOther (market : Market) (side : Side) (name : Address) : Prop :=
  ∃ currencies, market.currencies? = some currencies ∧
    ∃ other, other ≠ side ∧ currencies.get other = name

/-- Two markets differ at most in what belongs to the other side: in its heap and in the claims on
its currency. -/
structure AlikeOn (side : Side) (left right : Market) : Prop where
  terms : { left with book := none, claims := .empty } =
    { right with book := none, claims := .empty }
  currencies : left.currencies? = right.currencies?
  heap : left.book.map (·.heaps.get side) = right.book.map (·.heaps.get side)
  claims : ∀ name, ¬ left.NamesOther side name →
    left.claims.lastClaimed name = right.claims.lastClaimed name

section Sides

variable {left right market : Market} {book : Book} {side : Side}

theorem Separate.get_ne (separate : market.Separate) (bound : market.book = some book)
    {one other : Side} (ne : one ≠ other) :
    book.currencies.get one ≠ book.currencies.get other := by
  have distinct := separate book.currencies (by rw [currencies?, bound, Option.map_some])
  cases one <;> cases other
  case buy.buy => exact absurd rfl ne
  case buy.sell => exact distinct
  case sell.buy => exact distinct.symm
  case sell.sell => exact absurd rfl ne

theorem AlikeOn.refl (side : Side) (market : Market) : market.AlikeOn side market :=
  ⟨rfl, rfl, rfl, fun _ _ => rfl⟩

theorem AlikeOn.trans {middle : Market} (first : left.AlikeOn side middle)
    (second : middle.AlikeOn side right) : left.AlikeOn side right := by
  refine ⟨first.terms.trans second.terms, first.currencies.trans second.currencies,
    first.heap.trans second.heap, ?_⟩
  intro name own
  rw [first.claims name own]
  apply second.claims
  rwa [NamesOther, ← first.currencies]

theorem AlikeOn.symm (alike : left.AlikeOn side right) : right.AlikeOn side left := by
  refine ⟨alike.terms.symm, alike.currencies.symm, alike.heap.symm, ?_⟩
  intro name own
  apply (alike.claims name _).symm
  rwa [NamesOther, alike.currencies]

theorem AlikeOn.address (alike : left.AlikeOn side right) : left.address = right.address := by
  have terms := alike.terms
  injection terms

theorem AlikeOn.bare (alike : left.AlikeOn side right) (bare : left.book = none) :
    right.book = none := by
  have heap := alike.heap
  rw [bare] at heap
  exact Option.map_eq_none_iff.mp heap.symm

/-- Markets that are alike on a side have a book together, with the same heap on that side. -/
theorem AlikeOn.bound (alike : left.AlikeOn side right) (bound : left.book = some book) :
    ∃ other, right.book = some other ∧ other.currencies = book.currencies ∧
      other.heaps.get side = book.heaps.get side := by
  have currencies := alike.currencies
  have heap := alike.heap
  rw [currencies?, currencies?, bound] at currencies
  rw [bound] at heap
  cases also : right.book with
  | none =>
    rw [also] at heap
    cases heap
  | some other =>
    rw [also] at currencies heap
    exact ⟨other, rfl, (Option.some.inj currencies).symm, (Option.some.inj heap).symm⟩

/-- A name is the currency of one side at most, so there is a side on which it is not that of
another. -/
theorem Separate.namesOther_sell (separate : market.Separate) {name : Address}
    (sold : market.NamesOther .buy name) : ¬ market.NamesOther .sell name := by
  rintro ⟨currencies, found, other, notSell, bought⟩
  obtain ⟨_, also, another, notBuy, named⟩ := sold
  obtain rfl := Option.some.inj (found.symm.trans also)
  cases other <;> cases another
  case buy.sell => exact separate currencies found (bought.trans named.symm)
  case buy.buy => exact notBuy rfl
  case sell.buy => exact notSell rfl
  case sell.sell => exact notSell rfl

theorem claims_eq_of_alike (separate : left.Separate) (alike : ∀ side, left.AlikeOn side right) :
    left.claims = right.claims := by
  have entries (name : Address) : left.claims.lastClaimed name = right.claims.lastClaimed name := by
    by_cases sold : left.NamesOther .buy name
    case neg => exact (alike .buy).claims name sold
    case pos => exact (alike .sell).claims name (separate.namesOther_sell sold)
  exact congrArg Claims.mk (AddressMap.ext entries)

theorem book_eq_of_alike (alike : ∀ side, left.AlikeOn side right) : left.book = right.book := by
  cases bound : left.book with
  | none => exact ((alike .buy).bare bound).symm
  | some book =>
    obtain ⟨⟨heaps, _⟩, also, rfl, _⟩ := (alike .buy).bound bound
    have same : heaps = book.heaps := by
      ext1 side
      obtain ⟨_, again, _, heap⟩ := (alike side).bound bound
      obtain rfl := Option.some.inj (also.symm.trans again)
      exact heap
    rw [also, same]

/-- A market whose currencies differ is known from what it is on each side. -/
theorem eq_of_alike (separate : left.Separate) (alike : ∀ side, left.AlikeOn side right) :
    left = right := by
  have claims := claims_eq_of_alike separate alike
  have book := book_eq_of_alike alike
  have terms := (alike .buy).terms
  cases left
  cases right
  cases claims
  cases book
  cases terms
  rfl

variable {L : Type v} [Ledger L]

/-- Orders that rest on the same claim keep markets alike. -/
theorem AlikeOn.withClaim {other : Book} (alike : left.AlikeOn side right)
    (bound : left.book = some book) (also : right.book = some other)
    (ledger : Address) (order : Order) (claim : Claim) :
    (left.withClaim book side ledger order claim).AlikeOn side
      (right.withClaim other side ledger order claim) := by
  obtain ⟨_, again, currencies, heap⟩ := alike.bound bound
  obtain rfl := Option.some.inj (also.symm.trans again)
  have named : (left.withClaim book side ledger order claim).currencies? = left.currencies? := by
    rw [currencies?, currencies?, bound]
    rfl
  refine ⟨alike.terms, ?_, ?_, ?_⟩
  · simp only [Market.withClaim, currencies?, Option.map_some, Book.setHeap, currencies]
  · simp only [Market.withClaim, Option.map_some, Book.setHeap, Sided.get_set_self, alike.address,
      heap]
  · intro name own
    rw [NamesOther, named] at own
    simp only [Market.withClaim, Claims.lastClaimed_use, alike.claims name own]

/-- Markets that are alike on a side take or refuse an order there alike. -/
theorem place_congr (alike : left.AlikeOn side right) (separate : left.Separate) (ledger : L)
    (caller : Address) (price : UInt64) :
    (∃ error, left.place side ledger caller price = .error error ∧
      right.place side ledger caller price = .error error) ∨
    ∃ admission leftNext rightNext,
      left.place side ledger caller price = .ok (admission, leftNext) ∧
      right.place side ledger caller price = .ok (admission, rightNext) ∧
      leftNext.AlikeOn side rightNext := by
  cases bound : left.book with
  | none => exact .inl ⟨_, place_of_bare bound, place_of_bare (alike.bare bound)⟩
  | some book =>
    obtain ⟨other, also, currencies, heap⟩ := alike.bound bound
    by_cases same : Ledger.address ledger = book.currencies.get side
    case neg =>
      refine .inl ⟨_, place_elsewhere bound same, ?_⟩
      rw [← currencies] at same ⊢
      exact place_elsewhere also same
    case pos =>
      have own : ¬ left.NamesOther side (Ledger.address ledger) := by
        rintro ⟨_, found, another, ne, named⟩
        rw [currencies?, bound] at found
        cases found
        exact separate.get_ne bound ne (named.trans same)
      have offered : right.offer ledger caller price = left.offer ledger caller price :=
        offer_congr alike.address.symm (alike.claims _ own).symm caller price
      refine .inr ?_
      rw [place_eq bound same, place_eq also (currencies ▸ same), offered]
      cases left.offer ledger caller price with
      | error reason => exact ⟨_, _, _, rfl, rfl, alike⟩
      | ok claim => exact ⟨_, _, _, rfl, rfl, alike.withClaim bound also _ _ _⟩

/-- An order on another side keeps a market as it is on this one. -/
theorem place_frame {placed : Side} {ledger : L} {caller : Address} {price : UInt64}
    {admission : Admission} {next : Market} (elsewhere : placed ≠ side)
    (done : market.place placed ledger caller price = .ok (admission, next)) :
    market.AlikeOn side next := by
  have ended := place_end market placed ledger caller price
  rw [done] at ended
  cases ended with
  | rejected => exact .refl side market
  | accepted bound same =>
    refine ⟨rfl, ?_, ?_, ?_⟩
    · simp only [withOrder, currencies?, bound, Option.map_some, Book.setHeap]
    · simp only [withOrder, bound, Option.map_some, Book.setHeap, Sided.get_set,
        elsewhere.symm, ↓reduceIte]
    · intro name own
      have other : Ledger.address ledger ≠ name := by
        rintro rfl
        apply own
        exact ⟨_, by rw [currencies?, bound, Option.map_some], placed, elsewhere, same.symm⟩
      simp only [withOrder, Claims.lastClaimed_use, other, ↓reduceIte]

end Sides

end Market

namespace Exchange

/-- What an action makes of the ledger of its side, and whether it succeeds there. Placing an order
only reads the ledger. -/
def Action.onLedger? : Action → RefusingToken → Option (Bool × RefusingToken)
  | .issue caller recipient amount, ledger =>
    let (success, token) := ledger.token.issue caller recipient amount
    some (success, { ledger with token })
  | .send sender recipient amount, ledger =>
    let (success, token) := ledger.token.send sender recipient amount
    some (success, { ledger with token })
  | .transfer sender recipient amount, ledger => some (ledger.transfer sender recipient amount)
  | .refuse recipient count, ledger => some (true, ledger.refuse recipient count)
  | .place _ _, _ => none

/-- Two exchanges differ at most in what belongs to the other side. -/
structure AlikeOn (side : Side) (left right : Exchange) : Prop where
  market : left.market.AlikeOn side right.market
  ledger : left.ledgers.get side = right.ledgers.get side

section Steps

variable {exchange left right : Exchange} {side : Side} {request : Request}

theorem AlikeOn.refl (side : Side) (exchange : Exchange) : exchange.AlikeOn side exchange :=
  ⟨.refl side exchange.market, rfl⟩

theorem AlikeOn.trans {middle : Exchange} (first : left.AlikeOn side middle)
    (second : middle.AlikeOn side right) : left.AlikeOn side right :=
  ⟨first.market.trans second.market, first.ledger.trans second.ledger⟩

theorem AlikeOn.symm (alike : left.AlikeOn side right) : right.AlikeOn side left :=
  ⟨alike.market.symm, alike.ledger.symm⟩

theorem eq_of_alike (separate : left.market.Separate)
    (alike : ∀ side, left.AlikeOn side right) : left = right := by
  have market := Market.eq_of_alike separate fun side => (alike side).market
  have ledgers : left.ledgers = right.ledgers := Sided.ext fun side => (alike side).ledger
  cases left
  cases right
  cases market
  cases ledgers
  rfl

/-- A request other than for an order changes the ledger of its side and nothing else. -/
theorem step_onLedger {success : Bool} {ledger : RefusingToken}
    (moves : request.action.onLedger? (exchange.ledgers.get request.side) =
      some (success, ledger)) :
    exchange.step request.step =
      (.done success, { exchange with ledgers := exchange.ledgers.set request.side ledger }) := by
  obtain ⟨side, action⟩ := request
  cases action with
  | place => cases moves
  | issue caller recipient amount =>
    cases moves
    rfl
  | send sender recipient amount =>
    cases moves
    rfl
  | transfer sender recipient amount =>
    have made := Option.some.inj moves
    simp only [Request.step, step, made]
  | refuse recipient count =>
    cases moves
    rfl

theorem onLedger?_eq_none {action : Action} {ledger : RefusingToken}
    (reads : action.onLedger? ledger = none) : ∃ caller price, action = .place caller price := by
  cases action with
  | place caller price => exact ⟨caller, price, rfl⟩
  | issue => cases reads
  | send => cases reads
  | transfer => cases reads
  | refuse => cases reads

/-- A request on another side keeps an exchange as it is on this one. -/
theorem step_frame (elsewhere : request.side ≠ side) :
    exchange.AlikeOn side (exchange.step request.step).2 := by
  cases moves : request.action.onLedger? (exchange.ledgers.get request.side) with
  | some moved =>
    rw [step_onLedger moves]
    refine ⟨.refl side exchange.market, ?_⟩
    simp only [Sided.get_set, elsewhere.symm, ↓reduceIte]
  | none =>
    obtain ⟨placed, action⟩ := request
    obtain ⟨caller, price, rfl⟩ := onLedger?_eq_none moves
    simp only [Request.step, step]
    split
    case h_1 admission next done => exact ⟨Market.place_frame elsewhere done, rfl⟩
    case h_2 => exact .refl side exchange

/-- Exchanges that are alike on the side of a request answer it alike, and stay alike there. -/
theorem step_congr (alike : left.AlikeOn request.side right) (separate : left.market.Separate) :
    (left.step request.step).1 = (right.step request.step).1 ∧
      (left.step request.step).2.AlikeOn request.side (right.step request.step).2 := by
  cases moves : request.action.onLedger? (left.ledgers.get request.side) with
  | some moved =>
    rw [step_onLedger moves, step_onLedger (alike.ledger ▸ moves)]
    refine ⟨rfl, alike.market, ?_⟩
    simp only [Sided.get_set_self]
  | none =>
    obtain ⟨side, action⟩ := request
    obtain ⟨caller, price, rfl⟩ := onLedger?_eq_none moves
    have placed := Market.place_congr alike.market separate (left.ledgers.get side) caller price
    simp only [Request.step, step, ← alike.ledger]
    obtain ⟨error, refused, also⟩ | ⟨admission, leftNext, rightNext, done, also, next⟩ := placed
    · rw [refused, also]
      exact ⟨rfl, alike⟩
    · rw [done, also]
      exact ⟨rfl, next, alike.ledger⟩

theorem separate_step (separate : exchange.market.Separate) (step : Step) :
    (exchange.step step).2.market.Separate := by
  intro currencies found
  apply separate
  rw [← found]
  exact (follows_step exchange step).currencies.symm

end Steps

section Serving

variable {exchange : Exchange}

theorem separate_serve (separate : exchange.market.Separate) (requests : List Request) :
    (exchange.serve requests).2.market.Separate := by
  induction requests generalizing exchange with
  | nil => exact separate
  | cons first rest ih => exact ih (separate_step separate first.step)

/-- Interleaved requests on a side are those asked of it, in the order that they were asked in. -/
theorem filter_of_mixed {bids asks : List Action} {requests : List Request}
    (mixed : Interleaving (bids.map (Request.mk .buy)) (asks.map (Request.mk .sell)) requests)
    (side : Side) :
    requests.filter (·.side = side) =
      match side with
      | .buy => bids.map (Request.mk .buy)
      | .sell => asks.map (Request.mk .sell) := by
  cases side with
  | buy => exact mixed.filter_eq (by simp) (by simp)
  | sell => exact mixed.swap.filter_eq (by simp) (by simp)

theorem requests_serve (exchange : Exchange) (requests : List Request) :
    (exchange.serve requests).1.map Served.request = requests := by
  induction requests generalizing exchange with
  | nil => rfl
  | cons first rest ih =>
    simp only [serve, List.map_cons]
    rw [ih]

/-- The requests on a side are served as if there were no others. -/
theorem serve_alone {left right : Exchange} {side : Side} (alike : left.AlikeOn side right)
    (separate : left.market.Separate) (requests : List Request) :
    let alone := right.serve (requests.filter (·.side = side))
    (left.serve requests).1.filter (·.request.side = side) = alone.1 ∧
      (left.serve requests).2.AlikeOn side alone.2 := by
  -- A request on the side is a step of both runs; any other is a step of the first run only.
  induction requests generalizing left right with
  | nil => exact ⟨rfl, alike⟩
  | cons first rest ih =>
    have later := separate_step separate first.step
    by_cases here : first.side = side
    case pos =>
      subst here
      obtain ⟨answer, next⟩ := step_congr alike separate
      obtain ⟨served, last⟩ := ih next later
      simp only [serve, List.filter_cons, decide_true, ↓reduceIte, served, answer, next.ledger]
      exact ⟨trivial, last⟩
    case neg =>
      have next : (left.step first.step).2.AlikeOn side right :=
        (step_frame here).symm.trans alike
      obtain ⟨served, last⟩ := ih next later
      simp only [serve, List.filter_cons, here, decide_false, Bool.false_eq_true, ↓reduceIte]
      exact ⟨served, last⟩

/-- What is served depends only on the order of the requests on each side. -/
theorem serve_congr (separate : exchange.market.Separate) {one other : List Request}
    (agree : ∀ side, one.filter (·.side = side) = other.filter (·.side = side)) :
    (exchange.serve one).2 = (exchange.serve other).2 ∧
      ∀ side, (exchange.serve one).1.filter (·.request.side = side) =
        (exchange.serve other).1.filter (·.request.side = side) := by
  have alone (side : Side) := serve_alone (.refl side exchange) separate one
  have otherAlone (side : Side) := serve_alone (.refl side exchange) separate other
  constructor
  · apply eq_of_alike (separate_serve separate one)
    intro side
    have last := (alone side).2
    rw [agree side] at last
    exact last.trans (otherAlone side).2.symm
  · intro side
    have served := (alone side).1
    rw [agree side] at served
    exact served.trans (otherAlone side).1.symm

end Serving

/-- The requests on the sides do not interfere between ticks. On an exchange of a market that was
initialised, with ledgers in any state, an interleaving of what is asked of the buy side and what is
asked of the sell side ends as if the one was served after the other, in the same market and with
the same ledgers, and every request on a side gets the same answer and leaves the same balances
there. -/
theorem sides_independent {created market : Market} {caller : Address} {heaps : Sided KeyHeap}
    {currencies : Sided Address}
    (initialised : created.init caller heaps currencies = .ok market) (exchange : Exchange)
    (since : exchange.market.currencies? = market.currencies?) (bids asks : List Action)
    {requests : List Request}
    (mixed : Interleaving (bids.map (Request.mk .buy)) (asks.map (Request.mk .sell)) requests) :
    let ordered := exchange.serve (bids.map (Request.mk .buy) ++ asks.map (Request.mk .sell))
    (exchange.serve requests).2 = ordered.2 ∧
      (exchange.serve requests).1.map Served.request = requests ∧
      ∀ side, (exchange.serve requests).1.filter (·.request.side = side) =
        ordered.1.filter (·.request.side = side) := by
  obtain ⟨_, distinct, rfl⟩ := Market.init_eq_ok initialised
  have separate : exchange.market.Separate := by
    intro found bound
    rw [since] at bound
    cases bound
    exact distinct
  have agree (side : Side) := (filter_of_mixed mixed side).trans
    (filter_of_mixed (.append _ _) side).symm
  obtain ⟨last, served⟩ := serve_congr separate agree
  exact ⟨last, requests_serve exchange requests, served⟩

/-- A bidder pays in, orders without a price, then with one, and again on the same payment. -/
def bidding : List Action :=
  [.issue ⟨0x15⟩ ⟨0xa0⟩ 1000, .send ⟨0xa0⟩ ⟨0x4d⟩ 1000, .place ⟨0xa0⟩ 0, .place ⟨0xa0⟩ 1200,
    .place ⟨0xa0⟩ 1100]

/-- A seller pays in, and the bidder tries to order with that payment before the seller does. -/
def asking : List Action :=
  [.issue ⟨0x15⟩ ⟨0xa2⟩ 1000000, .send ⟨0xa2⟩ ⟨0x4d⟩ 1000000, .place ⟨0xa0⟩ 800,
    .place ⟨0xa2⟩ 800]

/-- Bidder and seller take turns. -/
def takingTurns : List Request :=
  [⟨.buy, .issue ⟨0x15⟩ ⟨0xa0⟩ 1000⟩, ⟨.sell, .issue ⟨0x15⟩ ⟨0xa2⟩ 1000000⟩,
    ⟨.buy, .send ⟨0xa0⟩ ⟨0x4d⟩ 1000⟩, ⟨.sell, .send ⟨0xa2⟩ ⟨0x4d⟩ 1000000⟩,
    ⟨.buy, .place ⟨0xa0⟩ 0⟩, ⟨.sell, .place ⟨0xa0⟩ 800⟩, ⟨.buy, .place ⟨0xa0⟩ 1200⟩,
    ⟨.sell, .place ⟨0xa2⟩ 800⟩, ⟨.buy, .place ⟨0xa0⟩ 1100⟩]

/-- With three orders rejected and two accepted, taking turns ends as one after the other. -/
theorem takingTurns_as_ordered :
    (fresh.serve takingTurns).1.map Served.answer =
        [.done true, .done true, .done true, .done true, .placed (.rejected .invalidPrice),
          .placed (.rejected .depositFromOther),
          .placed (.accepted ⟨.buy, 1200, 1000, ⟨0xa0⟩⟩ (Order.mk .buy 1200 1000 ⟨0xa0⟩).key),
          .placed (.accepted ⟨.sell, 800, 1000000, ⟨0xa2⟩⟩
            (Order.mk .sell 800 1000000 ⟨0xa2⟩).key),
          .placed (.rejected .alreadyClaimed)] ∧
      (fresh.serve takingTurns).2 =
        (fresh.serve (bidding.map (Request.mk .buy) ++ asking.map (Request.mk .sell))).2 := by
  have mixed : Interleaving (bidding.map (Request.mk .buy)) (asking.map (Request.mk .sell))
      takingTurns :=
    .left (.right (.left (.right (.left (.right (.left (.right (.left .nil))))))))
  have initialised : (Market.mk ⟨0x4d⟩ {} 0 none .empty 0 ⟨0⟩).init ⟨0x4d⟩
      ⟨.create ⟨0xb1⟩ ⟨0x4d⟩, .create ⟨0x51⟩ ⟨0x4d⟩⟩ ⟨⟨0xc1⟩, ⟨0xc2⟩⟩ = .ok fresh.market := by rfl
  exact ⟨by decide +kernel, (sides_independent initialised fresh rfl bidding asking mixed).1⟩

end Exchange

end DoubleAuction
