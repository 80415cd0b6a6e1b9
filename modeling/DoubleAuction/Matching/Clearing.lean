import DoubleAuction.Book.KeyHeap
import DoubleAuction.Matching.Budget
import DoubleAuction.Matching.Settle

/-! # Clearing a book

Clearing settles the best bid against the best ask as long as they cross and the budget lasts. Both
tops leave their heaps; an order that keeps resting returns with its reduced quantity. The loop ends
because every match is charged to the budget.
-/

namespace DoubleAuction

/-- The orders of a bid key and an ask key, when they cross. -/
def crossing (bidKey askKey : Key) : Except Error (Option (Order × Order)) := do
  let bid ← Order.ofLiveKey .buy bidKey
  let ask ← Order.ofLiveKey .sell askKey
  return if crosses bid ask then some (bid, ask) else none

/-- The best bid and the best ask, when both exist and cross. -/
def bestPair (heaps : Sided KeyHeap) : Except Error (Option (Order × Order)) :=
  if heaps.buy.isEmpty || heaps.sell.isEmpty then .ok none
  else crossing heaps.buy.top heaps.sell.top

/-- Why clearing ended. -/
inductive Stop where
  | uncrossed
  /-- The best orders still crossed when the budget was exhausted. -/
  | outOfBudget
  | failed (error : Error)
  deriving DecidableEq, Repr

/-- What clearing did: the fills in order, and what it left of the book and the budget. -/
structure Clearing (β : Type) where
  fills : List Fill
  book : β
  budget : Budget
  stop : Stop
  deriving DecidableEq, Repr

namespace Clearing

variable {β : Type}

/-- Whether matches remain for a later call. -/
def moreWork (clearing : Clearing β) : Bool := clearing.stop = .outOfBudget

/-- The fills, unless clearing failed. -/
def result (clearing : Clearing β) : Except Error (List Fill) :=
  match clearing.stop with
  | .failed error => .error error
  | .uncrossed | .outOfBudget => .ok clearing.fills

/-- The same clearing behind one more fill. -/
def after (fill : Fill) (clearing : Clearing β) : Clearing β :=
  { clearing with fills := fill :: clearing.fills }

end Clearing

/-- Takes the top order off a heap and puts back what stays resting of it. -/
def KeyHeap.replaceTop (heap : KeyHeap) (operator : Address) (order : Order) (residual : UInt64) :
    KeyHeap :=
  let rest := (heap.pop operator).2
  if residual = 0 then rest else rest.push operator (order.withQuantity residual).key

/-- The heaps behind a match of their tops. -/
def replaceTops (operator : Address) (heaps : Sided KeyHeap) (bid ask : Order) (fill : Fill) :
    Sided KeyHeap :=
  ⟨heaps.buy.replaceTop operator bid fill.bidResidual,
    heaps.sell.replaceTop operator ask fill.askResidual⟩

/-- Matches until the book is uncrossed or the budget is exhausted. -/
def matchTops (operator : Address) (heaps : Sided KeyHeap) (budget : Budget) :
    Clearing (Sided KeyHeap) :=
  match bestPair heaps with
  | .error error => ⟨[], heaps, budget, .failed error⟩
  | .ok none => ⟨[], heaps, budget, .uncrossed⟩
  | .ok (some (bid, ask)) =>
    match charged : budget.charge? with
    | none => ⟨[], heaps, budget, .outOfBudget⟩
    | some rest =>
      have : rest.remaining.toNat < budget.remaining.toNat := Budget.lt_of_charge? charged
      match settle bid ask with
      | .error error => ⟨[], heaps, rest, .failed error⟩
      | .ok fill => (matchTops operator (replaceTops operator heaps bid ask fill) rest).after fill
termination_by budget.remaining.toNat

/-- Clears a book for the owner of both heaps. When it fails, the heaps are as the matches before
the failure left them. -/
def clear (heaps : Sided KeyHeap) (operator : Address) (budget : Budget) :
    Clearing (Sided KeyHeap) :=
  if heaps.buy.owner ≠ operator then
    ⟨[], heaps, budget, .failed (.heapNotOwned heaps.buy.owner operator)⟩
  else if heaps.sell.owner ≠ operator then
    ⟨[], heaps, budget, .failed (.heapNotOwned heaps.sell.owner operator)⟩
  else matchTops operator heaps budget

end DoubleAuction
