import DoubleAuction.Matching.Clearing

/-! # Clearing sorted lists

The market's priority without any heap: the keys of each side stand in ascending order, the heads
are matched, and what stays resting of an order goes back to the head of its list. Clearing heaps
comes to the same fills.
-/

namespace DoubleAuction

/-- The keys of both sides, best first. -/
abbrev SortedBook := Sided (List Key)

namespace SortedBook

/-- The keys of two heaps in ascending order. -/
def ofHeaps (heaps : Sided KeyHeap) : SortedBook :=
  heaps.map fun heap => heap.keys.toList.mergeSort fun left right => left ≤ right

/-- The orders of the two heads, when both exist and cross. -/
def heads (book : SortedBook) : Except Error (Option (Order × Order)) :=
  match book.buy, book.sell with
  | bidKey :: _, askKey :: _ => crossing bidKey askKey
  | _, _ => .ok none

/-- A list with what stays resting of its first order in place of it. -/
def replaceHead (keys : List Key) (order : Order) (residual : UInt64) : List Key :=
  if residual = 0 then keys.tail else (order.withQuantity residual).key :: keys.tail

/-- Matches heads until they no longer cross or the budget is exhausted. -/
def clear (book : SortedBook) (budget : Budget) : Clearing SortedBook :=
  match book.heads with
  | .error error => ⟨[], book, budget, .failed error⟩
  | .ok none => ⟨[], book, budget, .uncrossed⟩
  | .ok (some (bid, ask)) =>
    match charged : budget.charge? with
    | none => ⟨[], book, budget, .outOfBudget⟩
    | some rest =>
      have : rest.remaining.toNat < budget.remaining.toNat := Budget.lt_of_charge? charged
      match settle bid ask with
      | .error error => ⟨[], book, rest, .failed error⟩
      | .ok fill =>
        (clear ⟨replaceHead book.buy bid fill.bidResidual,
          replaceHead book.sell ask fill.askResidual⟩ rest).after fill
termination_by budget.remaining.toNat

end SortedBook

end DoubleAuction
