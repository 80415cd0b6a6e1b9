import DoubleAuction.Order.Key

/-! # Restoring heap order in an array of keys

A heap is stored level by level: the parent of index `i` is at `(i - 1) / 2`. A new last key moves
up while it is smaller than its parent; a replaced root moves down while a child is smaller than it.
Both only exchange entries, so they keep the keys and change their places.
-/

namespace DoubleAuction.KeyHeap

/-- The index of a node's parent; the root is its own parent. -/
def parent (i : Nat) : Nat := (i - 1) / 2

theorem parent_lt {i : Nat} (positive : 0 < i) : parent i < i := by
  unfold parent
  omega

theorem parent_le (i : Nat) : parent i ≤ i := by
  unfold parent
  omega

/-- Moves the key at an index up to its place. -/
def siftUp (keys : Array Key) (i : Nat) (inside : i < keys.size) : Array Key :=
  if root : i = 0 then keys
  else
    have above : parent i < i := parent_lt (Nat.pos_of_ne_zero root)
    if keys[parent i] ≤ keys[i] then keys
    else siftUp (keys.swap (parent i) i) (parent i) (by simpa using Nat.lt_trans above inside)
termination_by i

/-- The child with the smaller key, the left one when both are equal. -/
def smallerChild? (keys : Array Key) (i : Nat) : Option Nat :=
  if left : 2 * i + 1 < keys.size then
    if right : 2 * i + 2 < keys.size then
      if keys[2 * i + 2] < keys[2 * i + 1] then some (2 * i + 2) else some (2 * i + 1)
    else some (2 * i + 1)
  else none

theorem smallerChild?_bounds {keys : Array Key} {i child : Nat}
    (chosen : smallerChild? keys i = some child) : i < child ∧ child < keys.size := by
  grind [smallerChild?]

/-- Moves the key at an index down to its place. -/
def siftDown (keys : Array Key) (i : Nat) : Array Key :=
  match chosen : smallerChild? keys i with
  | none => keys
  | some child =>
    have below : i < child := (smallerChild?_bounds chosen).1
    have inside : child < keys.size := (smallerChild?_bounds chosen).2
    if keys[i] ≤ keys[child] then keys else siftDown (keys.swap i child) child
termination_by keys.size - i
decreasing_by
  simp only [Array.size_swap]
  omega

end DoubleAuction.KeyHeap
