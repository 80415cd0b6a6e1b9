import DoubleAuction.Proofs.Matching.MatchPath

/-! # Clearing loses and invents no escrow

One match takes from each side exactly what its fill pays and retains there
(`escrowOf_replaceTops`), for whichever traders and prices are looked at. By induction over the path
of matches the same holds of a whole clearing (`MatchPath.escrowOf`), whether it ended or failed and
whatever the order of the keys. Along the way every property of resting orders that survives a
smaller quantity holds of what is left and of the orders that were matched.
-/

namespace DoubleAuction

/-- What a list of fills takes from the orders of chosen traders and prices on a side. -/
def spentBy (chosen : Address → UInt64 → Bool) (fills : List Fill) (side : Side) : Nat :=
  sumOver (fun fill =>
    if chosen (fill.trader side) (fill.price side) then
      (fill.paid side).toNat + (fill.retained side).toNat
    else 0) fills

/-- What a list of fills leaves with the market of the escrow of a side. -/
def retainedBy (fills : List Fill) (side : Side) : Nat :=
  sumOver (fun fill => (fill.retained side).toNat) fills

section Match

variable {operator : Address} {heaps : Sided KeyHeap} {bid ask : Order} {fill : Fill}

/-- A match takes from the chosen orders of a side what its fill pays and retains of them. -/
theorem escrowOf_replaceTops (owned : ∀ side, (heaps.get side).owner = operator)
    (pair : bestPair heaps = .ok (some (bid, ask))) (names : fill.Names bid ask)
    (settles : Settles bid ask fill) (chosen : Address → UInt64 → Bool) (side : Side) :
    ((replaceTops operator heaps bid ask fill).get side).escrowOf side chosen +
        spentBy chosen [fill] side = (heaps.get side).escrowOf side chosen := by
  obtain ⟨nonempty, decoded, _⟩ := (bestPair_eq_some pair).1 side
  have replaced := KeyHeap.escrowOf_replaceTop (owned side) nonempty decoded
    (settles.residual_le side) chosen
  have parts := settles.conserves side
  rw [get_replaceTops]
  simp only [spentBy, sumOver_cons, sumOver_nil, names.trader, names.price]
  simp only [KeyHeap.escrowOfOrder, Order.withQuantity] at replaced
  by_cases picked : chosen ((Sided.mk bid ask).get side).trader ((Sided.mk bid ask).get side).price
  · simp only [picked, ↓reduceIte] at replaced ⊢
    omega
  · simp only [picked, Bool.false_eq_true, ↓reduceIte] at replaced ⊢
    omega

/-- What holds of every resting order and survives a smaller quantity holds after a match. -/
theorem rests_replaceTops {property : Order → Prop}
    (reduces : ∀ order quantity, property order → quantity ≠ 0 → quantity ≤ order.quantity →
      property (order.withQuantity quantity))
    (owned : ∀ side, (heaps.get side).owner = operator)
    (pair : bestPair heaps = .ok (some (bid, ask))) (settles : Settles bid ask fill) {side : Side}
    (rests : (heaps.get side).Rests side property) :
    ((replaceTops operator heaps bid ask fill).get side).Rests side property := by
  obtain ⟨nonempty, decoded, _⟩ := (bestPair_eq_some pair).1 side
  rw [get_replaceTops]
  exact rests.replaceTop reduces (owned side) nonempty decoded (settles.residual_le side)

end Match

namespace MatchPath

variable {operator : Address} {heaps last : Sided KeyHeap} {fills : List Fill}

/-- Over any number of matches, what the fills pay and retain is what leaves the book. -/
theorem escrowOf (path : MatchPath operator heaps fills last)
    (owned : ∀ side, (heaps.get side).owner = operator) (chosen : Address → UInt64 → Bool)
    (side : Side) :
    (last.get side).escrowOf side chosen + spentBy chosen fills side =
      (heaps.get side).escrowOf side chosen := by
  induction path with
  | nil => exact Nat.add_zero _
  | cons pair settled _ ih =>
    obtain ⟨names, settles⟩ := settles_of_settle pair settled
    have first := escrowOf_replaceTops owned pair names settles chosen side
    have later := ih (owner_replaceTops owned _ _ _)
    simp only [spentBy, sumOver_cons, sumOver_nil] at first later ⊢
    omega

/-- A property of resting orders that survives a smaller quantity holds of the orders left by
matching, and of an order of every trader that was matched. -/
theorem rests (path : MatchPath operator heaps fills last) {property : Order → Prop}
    (reduces : ∀ order quantity, property order → quantity ≠ 0 → quantity ≤ order.quantity →
      property (order.withQuantity quantity))
    (owned : ∀ side, (heaps.get side).owner = operator) {side : Side}
    (rests : (heaps.get side).Rests side property) :
    (last.get side).Rests side property ∧
      ∀ fill ∈ fills, ∃ order, property order ∧
        fill.trader side = order.trader ∧ fill.price side = order.price := by
  induction path with
  | nil => exact ⟨rests, by simp⟩
  | cons pair settled _ ih =>
    obtain ⟨names, settles⟩ := settles_of_settle pair settled
    obtain ⟨left, matched⟩ := ih (owner_replaceTops owned _ _ _)
      (rests_replaceTops reduces owned pair settles rests)
    refine ⟨left, ?_⟩
    intro another member
    rcases List.mem_cons.mp member with rfl | later
    · obtain ⟨nonempty, decoded, _⟩ := (bestPair_eq_some pair).1 side
      refine ⟨_, rests.top nonempty, ?_, ?_⟩
      · rw [names.trader, decoded]
      · rw [names.price, decoded]
    · exact matched another later

/-- Matches leave live orders live. -/
theorem live (path : MatchPath operator heaps fills last)
    (owned : ∀ side, (heaps.get side).owner = operator) {side : Side}
    (live : (heaps.get side).Rests side fun order => order.emptyField? = none) :
    (last.get side).Rests side fun order => order.emptyField? = none := by
  have reduces (order : Order) (quantity : UInt64) (whole : order.emptyField? = none)
      (positive : quantity ≠ 0) (_ : quantity ≤ order.quantity) :=
    Order.emptyField?_withQuantity whole positive
  exact (path.rests reduces owned live).1

end MatchPath

section Loop

variable {operator : Address} {heaps : Sided KeyHeap} {budget : Budget}

/-- When every resting order is live, clearing does not fail. -/
theorem clear_of_live (owned : ∀ side, (heaps.get side).owner = operator)
    (live : ∀ side, (heaps.get side).Rests side fun order => order.emptyField? = none)
    (budget : Budget) : ∃ fills, (clear heaps operator budget).result = .ok fills := by
  have stillLive (side : Side) := (path_matchTops operator heaps budget).live owned (live side)
  obtain ⟨pair, found⟩ := bestPair_of_live stillLive
  have ended := stop_matchTops operator heaps budget
  rw [clear_of_owned owned, Clearing.result]
  split at ended
  case h_1 stop => exact ⟨_, by rw [stop]⟩
  case h_2 stop => exact ⟨_, by rw [stop]⟩
  case h_3 =>
    rw [found] at ended
    cases ended

end Loop

end DoubleAuction
