import DoubleAuction.Matching.Clearing
import DoubleAuction.Proofs.Order.Codec

/-! # What a heap holds

Sifting only moves keys, so a push adds its key and a pop takes the root, wherever the others end up
(`push_perm`, `pop_perm`). Two views of the contents are followed through these changes: the escrow
of the orders that a choice of traders and prices picks out (`escrowOf`; all of it is `committed`),
and a property that every resting order has (`Rests`).
-/

namespace DoubleAuction.KeyHeap

/-- Letting a key rise only moves keys. -/
theorem siftUp_perm (keys : Array Key) (i : Nat) (inside : i < keys.size) :
    (siftUp keys i inside).Perm keys := by
  fun_induction siftUp keys i inside with
  | case1 => exact .refl _
  | case2 => exact .refl _
  | case3 keys i inside root above small ih => exact ih.trans (Array.swap_perm _ _)

/-- Letting a key sink only moves keys. -/
theorem siftDown_perm (keys : Array Key) (i : Nat) : (siftDown keys i).Perm keys := by
  fun_induction siftDown keys i with
  | case1 => exact .refl _
  | case2 => exact .refl _
  | case3 keys i child chosen below inside large ih => exact ih.trans (Array.swap_perm _ _)

theorem insertKey_perm (keys : Array Key) (key : Key) :
    (insertKey keys key).toList.Perm (key :: keys.toList) := by
  have moved := (siftUp_perm (keys.push key) keys.size (by simp)).toList
  rw [Array.toList_push] at moved
  exact moved.trans (List.perm_append_singleton key keys.toList)

/-- Without its root an array holds the other keys. -/
theorem removeRoot_perm {keys : Array Key} (nonempty : 0 < keys.size) :
    (keys[0] :: (removeRoot keys).toList).Perm keys.toList := by
  have last : keys.size - 1 < keys.size := by omega
  have swapped : ((keys.swap 0 (keys.size - 1) nonempty last).pop.push keys[0]).Perm keys := by
    have whole : (keys.swap 0 (keys.size - 1) nonempty last).pop.push keys[0] =
        keys.swap 0 (keys.size - 1) nonempty last := by
      apply Array.ext (by simp; omega)
      intro i bound _
      simp only [Array.size_push, Array.size_pop, Array.size_swap] at bound
      simp only [Array.getElem_push, Array.size_pop, Array.size_swap, Array.getElem_pop]
      split
      case isTrue => rfl
      case isFalse top =>
        have atLast : i = keys.size - 1 := by omega
        subst atLast
        simp
    rw [whole]
    exact Array.swap_perm _ _
  have sunk := (siftDown_perm (keys.swap 0 (keys.size - 1) nonempty last).pop 0).toList
  have rest := swapped.toList
  rw [Array.toList_push] at rest
  simp only [removeRoot, nonempty, ↓reduceDIte]
  exact (sunk.cons _).trans ((List.perm_append_singleton _ _).symm.trans rest)

section Contents

variable {heap : KeyHeap} {caller : Address}

theorem isEmpty_eq_false_iff : heap.isEmpty = false ↔ 0 < heap.keys.size := by
  simp only [isEmpty, Array.isEmpty_eq_false_iff, Array.size_pos_iff]

theorem top_eq (nonempty : 0 < heap.keys.size) : heap.top = heap.keys[0] := by
  simp [top, nonempty]

theorem top_mem (nonempty : 0 < heap.keys.size) : heap.top ∈ heap.keys.toList := by
  rw [top_eq nonempty]
  exact Array.getElem_mem_toList nonempty

theorem push_perm (owned : heap.owner = caller) (key : Key) :
    (heap.push caller key).keys.toList.Perm (key :: heap.keys.toList) := by
  simp only [push, owned, ↓reduceIte]
  exact insertKey_perm heap.keys key

theorem pop_perm (owned : heap.owner = caller) (nonempty : 0 < heap.keys.size) :
    (heap.top :: (heap.pop caller).2.keys.toList).Perm heap.keys.toList := by
  simp only [pop, owned, ↓reduceIte, top_eq nonempty]
  exact removeRoot_perm nonempty

@[simp] theorem owner_push (heap : KeyHeap) (caller : Address) (key : Key) :
    (heap.push caller key).owner = heap.owner := by
  unfold push
  split <;> rfl

@[simp] theorem owner_pop (heap : KeyHeap) (caller : Address) :
    (heap.pop caller).2.owner = heap.owner := by
  unfold pop
  split <;> rfl

@[simp] theorem id_push (heap : KeyHeap) (caller : Address) (key : Key) :
    (heap.push caller key).id = heap.id := by
  unfold push
  split <;> rfl

@[simp] theorem id_pop (heap : KeyHeap) (caller : Address) : (heap.pop caller).2.id = heap.id := by
  unfold pop
  split <;> rfl

@[simp] theorem owner_replaceTop (heap : KeyHeap) (operator : Address) (order : Order)
    (residual : UInt64) : (heap.replaceTop operator order residual).owner = heap.owner := by
  unfold replaceTop
  split <;> simp

@[simp] theorem id_replaceTop (heap : KeyHeap) (operator : Address) (order : Order)
    (residual : UInt64) : (heap.replaceTop operator order residual).id = heap.id := by
  unfold replaceTop
  split <;> simp

end Contents

/-- The escrow of one order, if its trader and price are chosen. -/
def escrowOfOrder (chosen : Address → UInt64 → Bool) (order : Order) : Nat :=
  if chosen order.trader order.price then order.quantity.toNat else 0

/-- The escrow that the orders of chosen traders and prices commit. -/
def escrowOf (heap : KeyHeap) (side : Side) (chosen : Address → UInt64 → Bool) : Nat :=
  sumOver (fun key => escrowOfOrder chosen (Order.ofKey side key)) heap.keys.toList

/-- Every order of a heap has a property. -/
def Rests (heap : KeyHeap) (side : Side) (property : Order → Prop) : Prop :=
  ∀ key ∈ heap.keys.toList, property (Order.ofKey side key)

instance (heap : KeyHeap) (side : Side) (property : Order → Prop) [DecidablePred property] :
    Decidable (heap.Rests side property) :=
  List.decidableBAll (fun key => property (Order.ofKey side key)) heap.keys.toList

/-- With every trader and price chosen, the escrow is all that is committed. -/
theorem committed_eq_escrowOf (heap : KeyHeap) (side : Side) :
    heap.committed side = heap.escrowOf side fun _ _ => true := rfl

section Changes

variable {heap : KeyHeap} {caller : Address} {side : Side} {order : Order}

theorem escrowOf_push (owned : heap.owner = caller) (side : Side)
    (chosen : Address → UInt64 → Bool) (key : Key) :
    (heap.push caller key).escrowOf side chosen =
      heap.escrowOf side chosen + escrowOfOrder chosen (Order.ofKey side key) := by
  have sums : (heap.push caller key).escrowOf side chosen = _ := sumOver_perm (push_perm owned key)
  rw [sums, sumOver_cons, Nat.add_comm]
  rfl

theorem escrowOf_pop (owned : heap.owner = caller) (nonempty : 0 < heap.keys.size) (side : Side)
    (chosen : Address → UInt64 → Bool) :
    (heap.pop caller).2.escrowOf side chosen +
        escrowOfOrder chosen (Order.ofKey side heap.top) = heap.escrowOf side chosen := by
  have sums : _ = heap.escrowOf side chosen := sumOver_perm (pop_perm owned nonempty)
  rw [← sums, sumOver_cons, Nat.add_comm]
  rfl

/-- Replacing the top by what stays resting of it takes away exactly the difference. -/
theorem escrowOf_replaceTop (owned : heap.owner = caller) (nonempty : 0 < heap.keys.size)
    (decoded : order = Order.ofKey side heap.top) {residual : UInt64}
    (less : residual ≤ order.quantity) (chosen : Address → UInt64 → Bool) :
    (heap.replaceTop caller order residual).escrowOf side chosen + escrowOfOrder chosen order =
      heap.escrowOf side chosen + escrowOfOrder chosen (order.withQuantity residual) := by
  have popped := escrowOf_pop owned nonempty side chosen
  rw [← decoded] at popped
  simp only [replaceTop]
  split
  case isTrue gone =>
    have nothing : escrowOfOrder chosen (order.withQuantity residual) = 0 := by
      simp [escrowOfOrder, Order.withQuantity, gone]
    omega
  case isFalse =>
    have pushed := escrowOf_push ((owner_pop heap caller).trans owned) side chosen
      (order.withQuantity residual).key
    have readBack : Order.ofKey side (order.withQuantity residual).key =
        order.withQuantity residual := by
      subst decoded
      exact Order.ofKey_withQuantity side heap.top less
    rw [readBack] at pushed
    omega

/-- What rests at the top of a heap is one of its orders. -/
theorem Rests.top {property : Order → Prop} (rests : heap.Rests side property)
    (nonempty : 0 < heap.keys.size) : property (Order.ofKey side heap.top) :=
  rests heap.top (top_mem nonempty)

theorem Rests.push {property : Order → Prop} (rests : heap.Rests side property)
    (owned : heap.owner = caller) {key : Key} (new : property (Order.ofKey side key)) :
    (heap.push caller key).Rests side property := by
  intro other member
  rcases List.mem_cons.mp ((push_perm owned key).mem_iff.mp member) with rfl | old
  · exact new
  · exact rests other old

theorem Rests.pop {property : Order → Prop} (rests : heap.Rests side property)
    (owned : heap.owner = caller) (nonempty : 0 < heap.keys.size) :
    (heap.pop caller).2.Rests side property :=
  fun key member => rests key
    ((pop_perm owned nonempty).mem_iff.mp (List.mem_cons_of_mem _ member))

/-- A property that survives a smaller quantity survives the replacement of the top. -/
theorem Rests.replaceTop {property : Order → Prop} (rests : heap.Rests side property)
    (reduces : ∀ order quantity, property order → quantity ≠ 0 → quantity ≤ order.quantity →
      property (order.withQuantity quantity))
    (owned : heap.owner = caller) (nonempty : 0 < heap.keys.size)
    (decoded : order = Order.ofKey side heap.top) {residual : UInt64}
    (less : residual ≤ order.quantity) :
    (heap.replaceTop caller order residual).Rests side property := by
  have popped := rests.pop owned nonempty
  simp only [KeyHeap.replaceTop]
  split
  case isTrue => exact popped
  case isFalse positive =>
    refine popped.push ((owner_pop heap caller).trans owned) ?_
    subst decoded
    rw [Order.ofKey_withQuantity side heap.top less]
    exact reduces _ residual (rests.top nonempty) positive less

end Changes

end DoubleAuction.KeyHeap
