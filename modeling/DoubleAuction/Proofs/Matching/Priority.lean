import Mathlib.Data.List.Chain
import DoubleAuction.Proofs.Matching.Conservation
import DoubleAuction.Proofs.Matching.SortedBook

/-! # Price priority

On heaps in order every match takes the best orders that rest on either side
(`Fill.TakesBest`), so along the fills prices only get worse. What an order keeps resting is again
the best of its side and is what the next fill takes of it (`Fill.Continues`). When clearing ends,
the tops of the heaps tell whether any two orders still cross (`bestPair_isSome_iff`).
-/

namespace DoubleAuction

namespace Fill

/-- The escrow of the order on a side, as a fill divides it. -/
def escrow (fill : Fill) (side : Side) : Nat :=
  (fill.paid side).toNat + (fill.residual side).toNat + (fill.retained side).toNat

/-- A fill settles an order with all its escrow. -/
structure Takes (fill : Fill) (side : Side) (order : Order) : Prop where
  trader : fill.trader side = order.trader
  price : fill.price side = order.price
  escrow : fill.escrow side = order.quantity.toNat

/-- A fill settles an order of a heap, and no order there has a better price. -/
structure TakesBest (fill : Fill) (side : Side) (heap : KeyHeap) : Prop where
  takes : ∃ key ∈ heap.keys.toList, fill.Takes side (Order.ofKey side key)
  best : heap.Rests side fun order => side.NoBetter order.price (fill.price side)

/-- What stays resting of an order is what the next fill takes on its side. -/
def Continues (earlier later : Fill) : Prop :=
  ∀ side, earlier.residual side ≠ 0 →
    later.trader side = earlier.trader side ∧ later.price side = earlier.price side ∧
      later.escrow side = (earlier.residual side).toNat

end Fill

/-- In a heap in order, no order has a better price than the one at the top, if that one is live. -/
theorem KeyHeap.rests_noBetter_top {heap : KeyHeap} (ordered : Ordered heap.keys) {side : Side}
    (live : (Order.ofKey side heap.top).emptyField? = none) :
    heap.Rests side fun order => side.NoBetter order.price (Order.ofKey side heap.top).price := by
  intro key member
  exact Order.noBetter_of_key_le (top_le ordered member)
    (Order.emptyField?_eq_none_iff.mp live).2.1

section Match

variable {operator : Address} {heaps : Sided KeyHeap} {bid ask : Order} {fill : Fill}

theorem takes_top (pair : bestPair heaps = .ok (some (bid, ask)))
    (settled : settle bid ask = .ok fill) (side : Side) :
    fill.Takes side (Order.ofKey side (heaps.get side).top) := by
  obtain ⟨names, settles⟩ := settles_of_settle pair settled
  obtain ⟨_, decoded, _⟩ := (bestPair_eq_some pair).1 side
  rw [← decoded]
  exact ⟨names.trader side, names.price side, settles.conserves side⟩

/-- On heaps in order, the best pair is the best of either side. -/
theorem takesBest_of_settle (ordered : ∀ side, KeyHeap.Ordered (heaps.get side).keys)
    (pair : bestPair heaps = .ok (some (bid, ask))) (settled : settle bid ask = .ok fill)
    (side : Side) : fill.TakesBest side (heaps.get side) := by
  obtain ⟨nonempty, decoded, live⟩ := (bestPair_eq_some pair).1 side
  have takes := takes_top pair settled side
  constructor
  · exact ⟨(heaps.get side).top, KeyHeap.top_mem nonempty, takes⟩
  · rw [takes.price]
    rw [decoded] at live
    exact KeyHeap.rests_noBetter_top (ordered side) live

/-- What stays resting of the top order goes back to the top. -/
theorem top_replaceTop {heap : KeyHeap} (owned : heap.owner = operator)
    (ordered : KeyHeap.Ordered heap.keys) (nonempty : 0 < heap.keys.size) {side : Side}
    {residual : UInt64} (less : residual ≤ (Order.ofKey side heap.top).quantity)
    (positive : residual ≠ 0) :
    (heap.replaceTop operator (Order.ofKey side heap.top) residual).top =
      ((Order.ofKey side heap.top).withQuantity residual).key := by
  have held := KeyHeap.push_perm ((KeyHeap.owner_pop heap operator).trans owned)
    ((Order.ofKey side heap.top).withQuantity residual).key
  simp only [KeyHeap.replaceTop, positive, ↓reduceIte]
  apply KeyHeap.top_eq_of_least
  · exact KeyHeap.ordered_push (KeyHeap.ordered_pop ordered operator) operator _
  · exact held.mem_iff.mpr List.mem_cons_self
  · intro other member
    rcases List.mem_cons.mp (held.mem_iff.mp member) with rfl | rest
    · exact BitVec.le_refl _
    · have before := (KeyHeap.pop_perm owned nonempty).mem_iff.mp (List.mem_cons_of_mem _ rest)
      exact BitVec.le_trans (Order.key_withQuantity_le side heap.top less)
        (KeyHeap.top_le ordered before)

/-- The next match takes what this one left resting. -/
theorem continues_of_settle (owned : ∀ side, (heaps.get side).owner = operator)
    (ordered : ∀ side, KeyHeap.Ordered (heaps.get side).keys)
    (pair : bestPair heaps = .ok (some (bid, ask))) (settled : settle bid ask = .ok fill)
    {nextBid nextAsk : Order} {next : Fill}
    (nextPair : bestPair (replaceTops operator heaps bid ask fill) =
      .ok (some (nextBid, nextAsk)))
    (nextSettled : settle nextBid nextAsk = .ok next) : fill.Continues next := by
  intro side positive
  obtain ⟨nonempty, decoded, _⟩ := (bestPair_eq_some pair).1 side
  have less := (settles_of_settle pair settled).2.residual_le side
  have takes := takes_top pair settled side
  have later := takes_top nextPair nextSettled side
  rw [decoded] at less
  rw [get_replaceTops, decoded,
    top_replaceTop (owned side) (ordered side) nonempty less positive,
    Order.ofKey_withQuantity side _ less] at later
  exact ⟨later.trader.trans takes.trader.symm, later.price.trans takes.price.symm, later.escrow⟩

theorem ordered_replaceTops (ordered : ∀ side, KeyHeap.Ordered (heaps.get side).keys)
    (side : Side) :
    KeyHeap.Ordered ((replaceTops operator heaps bid ask fill).get side).keys := by
  rw [get_replaceTops]
  exact KeyHeap.ordered_replaceTop (ordered side) operator _ _

end Match

namespace MatchPath

variable {operator : Address} {heaps last : Sided KeyHeap} {fills : List Fill}

/-- Matches leave the heaps in order. -/
theorem ordered (path : MatchPath operator heaps fills last)
    (ordered : ∀ side, KeyHeap.Ordered (heaps.get side).keys) (side : Side) :
    KeyHeap.Ordered (last.get side).keys := by
  induction path with
  | nil => exact ordered side
  | cons _ _ _ ih => exact ih (ordered_replaceTops ordered)

/-- Along the fills no price gets better. -/
theorem prices (path : MatchPath operator heaps fills last)
    (owned : ∀ side, (heaps.get side).owner = operator)
    (ordered : ∀ side, KeyHeap.Ordered (heaps.get side).keys) :
    fills.Pairwise fun earlier later =>
      ∀ side : Side, side.NoBetter (later.price side) (earlier.price side) := by
  induction path with
  | nil => exact .nil
  | @cons _ _ bid ask fill _ pair settled rest ih =>
    have stillOwned := owner_replaceTops owned bid ask fill
    refine List.pairwise_cons.mpr ⟨?_, ih stillOwned (ordered_replaceTops ordered)⟩
    intro later member side
    have settles := (settles_of_settle pair settled).2
    -- A price limit on the resting orders survives a match.
    have limit := rests_replaceTops (fun _ _ limited _ _ => limited) owned pair settles
      (takesBest_of_settle ordered pair settled side).best
    obtain ⟨order, limited, _, price⟩ :=
      (rest.rests (fun _ _ limited _ _ => limited) stillOwned limit).2 later member
    rw [price]
    exact limited

/-- Along the fills every order that keeps resting is the next of its side. -/
theorem chain (path : MatchPath operator heaps fills last)
    (owned : ∀ side, (heaps.get side).owner = operator)
    (ordered : ∀ side, KeyHeap.Ordered (heaps.get side).keys) : fills.IsChain Fill.Continues := by
  induction path with
  | nil => exact .nil
  | @cons _ _ bid ask fill _ pair settled rest ih =>
    have stillOwned := owner_replaceTops owned bid ask fill
    refine List.isChain_cons.mpr ⟨?_, ih stillOwned (ordered_replaceTops ordered)⟩
    intro next first
    cases rest with
    | nil => cases first
    | cons nextPair nextSettled _ =>
      cases first
      exact continues_of_settle owned ordered pair settled nextPair nextSettled

end MatchPath

section Crossing

variable {heaps : Sided KeyHeap}

/-- On heaps in order, the tops tell whether any two orders cross. -/
theorem bestPair_isSome_iff (ordered : ∀ side, KeyHeap.Ordered (heaps.get side).keys)
    {pair : Option (Order × Order)} (found : bestPair heaps = .ok pair) :
    pair.isSome = true ↔ ∃ bid ∈ heaps.buy.keys.toList, ∃ ask ∈ heaps.sell.keys.toList,
      crosses (.ofKey .buy bid) (.ofKey .sell ask) = true := by
  constructor
  · intro present
    obtain ⟨⟨bid, ask⟩, rfl⟩ := Option.isSome_iff_exists.mp present
    obtain ⟨tops, crossing⟩ := bestPair_eq_some found
    obtain ⟨someBid, bidDecoded, _⟩ := tops .buy
    obtain ⟨someAsk, askDecoded, _⟩ := tops .sell
    simp only [Sided.get] at bidDecoded askDecoded
    rw [bidDecoded, askDecoded] at crossing
    exact ⟨_, KeyHeap.top_mem someBid, _, KeyHeap.top_mem someAsk, crossing⟩
  · rintro ⟨bid, bidHeld, ask, askHeld, crossing⟩
    have nonempty (side : Side) : 0 < (heaps.get side).keys.size := by
      rw [← Array.length_toList]
      cases side with
      | buy => exact List.length_pos_of_mem bidHeld
      | sell => exact List.length_pos_of_mem askHeld
    rw [bestPair_of_nonempty nonempty] at found
    obtain ⟨bidLive, askLive, rfl⟩ := crossing_eq_ok_iff.mp found
    have higher : (Order.ofKey .buy bid).price ≤ (Order.ofKey .buy heaps.buy.top).price :=
      KeyHeap.rests_noBetter_top (ordered .buy) bidLive bid bidHeld
    have lower : (Order.ofKey .sell heaps.sell.top).price ≤ (Order.ofKey .sell ask).price :=
      KeyHeap.rests_noBetter_top (ordered .sell) askLive ask askHeld
    have between : (Order.ofKey .sell ask).price ≤ (Order.ofKey .buy bid).price := by
      simpa only [crosses, decide_eq_true_eq] using crossing
    have best : crosses (.ofKey .buy heaps.buy.top) (.ofKey .sell heaps.sell.top) = true := by
      simp only [crosses, decide_eq_true_eq]
      exact UInt64.le_trans lower (UInt64.le_trans between higher)
    rw [if_pos best]
    rfl

/-- Work remains exactly when orders still cross, and then the budget is exhausted. -/
theorem moreWork_matchTops {operator : Address} {budget : Budget} {fills : List Fill}
    (ordered : ∀ side, KeyHeap.Ordered (heaps.get side).keys)
    (ended : (matchTops operator heaps budget).result = .ok fills) :
    let matched := matchTops operator heaps budget
    (matched.moreWork = true ↔ ∃ bid ∈ matched.book.buy.keys.toList,
        ∃ ask ∈ matched.book.sell.keys.toList,
          crosses (.ofKey .buy bid) (.ofKey .sell ask) = true) ∧
      (matched.moreWork = true → matched.budget.isExhausted = true) := by
  have left := (path_matchTops operator heaps budget).ordered ordered
  have why := stop_matchTops operator heaps budget
  dsimp only
  generalize matchTops operator heaps budget = matched at ended left why ⊢
  unfold Clearing.result at ended
  unfold Clearing.moreWork
  cases stop : matched.stop with
  | uncrossed =>
    rw [stop] at why
    have none := bestPair_isSome_iff left why
    simpa using none
  | outOfBudget =>
    rw [stop] at why
    obtain ⟨⟨pair, found⟩, exhausted⟩ := why
    have some := bestPair_isSome_iff left found
    simpa [exhausted] using some
  | failed error =>
    rw [stop] at ended
    cases ended

end Crossing

/-- Clearing heaps in order follows strict price priority: every match takes the best bid and the
best ask that rest at its moment, what an order keeps resting is matched next, and the call reports
that work remains exactly when the budget ended before the book stopped crossing. -/
theorem clear_by_priority {heaps : Sided KeyHeap} {operator : Address}
    (owned : ∀ side, (heaps.get side).owner = operator)
    (checked : ∀ side, (heaps.get side).checkOrder = .ok ()) {budget : Budget} {fills : List Fill}
    (ended : (clear heaps operator budget).result = .ok fills) :
    let cleared := clear heaps operator budget
    (fills.Pairwise fun earlier later =>
        later.bidPrice ≤ earlier.bidPrice ∧ earlier.askPrice ≤ later.askPrice) ∧
      (∀ before fill after, fills = before ++ fill :: after →
        ∃ moment, MatchPath operator heaps before moment ∧
          (∀ side, fill.TakesBest side (moment.get side)) ∧
          MatchPath operator moment (fill :: after) cleared.book) ∧
      fills.IsChain Fill.Continues ∧
      fills.length + cleared.budget.remaining.toNat = budget.remaining.toNat ∧
      (cleared.moreWork = true ↔ ∃ bid ∈ cleared.book.buy.keys.toList,
        ∃ ask ∈ cleared.book.sell.keys.toList,
          crosses (.ofKey .buy bid) (.ofKey .sell ask) = true) ∧
      (cleared.moreWork = true → cleared.budget.isExhausted = true) := by
  have ordered (side : Side) := KeyHeap.checkOrder_eq_ok_iff.mp (checked side)
  have path := path_matchTops operator heaps budget
  have spent := length_matchTops operator heaps budget
  rw [clear_of_owned owned] at ended ⊢
  obtain ⟨truthful, exhausted⟩ := moreWork_matchTops ordered ended
  rw [← Clearing.result_eq_ok ended] at path spent
  refine ⟨?_, ?_, path.chain owned ordered, spent, truthful, exhausted⟩
  · refine (path.prices owned ordered).imp ?_
    intro earlier later worse
    exact ⟨worse .buy, worse .sell⟩
  · rintro before fill after rfl
    obtain ⟨moment, left, right⟩ := path.split
    refine ⟨moment, left, ?_, right⟩
    cases right with
    | cons pair settled _ => exact takesBest_of_settle (left.ordered ordered) pair settled

/-- The first three of the four matches among three bids and three asks. The bid of the highest
price meets all of them, and the last one leaves an ask. -/
def threeFills : List Fill :=
  [⟨.askFilled, ⟨0xa1⟩, ⟨0xa3⟩, 1400, 600, 642, 900000, 1358, 0, 0, 0⟩,
    ⟨.askFilled, ⟨0xa1⟩, ⟨0xa2⟩, 1400, 800, 714, 1000000, 644, 0, 0, 0⟩,
    ⟨.bidFilled, ⟨0xa1⟩, ⟨0xa3⟩, 1400, 800, 644, 515200, 0, 484800, 0, 0⟩]

theorem threeHeaps_cleared_by_priority :
    let cleared := clear threeHeaps ⟨0x3a⟩ ⟨3⟩
    cleared.result = .ok threeFills ∧ threeFills.IsChain Fill.Continues ∧
      ∃ bid ∈ cleared.book.buy.keys.toList, ∃ ask ∈ cleared.book.sell.keys.toList,
        crosses (.ofKey .buy bid) (.ofKey .sell ask) = true := by
  have built := heapsOf_built ⟨0x3a⟩ ⟨⟨0xb1⟩, ⟨0x51⟩⟩ threeEach
  have fills : (clear threeHeaps ⟨0x3a⟩ ⟨3⟩).fills = threeFills := by decide +kernel
  have stop : (clear threeHeaps ⟨0x3a⟩ ⟨3⟩).stop = .outOfBudget := by decide +kernel
  have ended : (clear threeHeaps ⟨0x3a⟩ ⟨3⟩).result = .ok threeFills := by
    rw [Clearing.result, stop, fills]
  obtain ⟨_, _, chain, _, truthful, _⟩ := clear_by_priority (fun side => (built side).1)
    (fun side => KeyHeap.checkOrder_eq_ok_iff.mpr (built side).2.1) ended
  exact ⟨ended, chain, truthful.mp (decide_eq_true stop)⟩

end DoubleAuction
