import DoubleAuction.Book.Sift
import DoubleAuction.Sum

/-! # Heaps of order keys

A heap holds the keys of one side, smallest first at the root. Anyone may read it; only its owner
changes it, and a change asked for by anyone else leaves it as it was. The key `0` stands for
"nothing" wherever a key is returned.
-/

namespace DoubleAuction

/-- A heap of keys with a name and an owner. The keys are in storage order. -/
structure KeyHeap where
  id : Address
  owner : Address
  keys : Array Key
  deriving DecidableEq, Repr

namespace KeyHeap

/-- An empty heap, owned by its creator. -/
def create (id creator : Address) : KeyHeap := ⟨id, creator, #[]⟩

/-- The number of keys held. -/
def size (heap : KeyHeap) : Nat := heap.keys.size

def isEmpty (heap : KeyHeap) : Bool := heap.keys.isEmpty

/-- The smallest key, or `0` when there is none. -/
def top (heap : KeyHeap) : Key := heap.keys[0]?.getD 0

/-- Puts a key at the end of the array and lets it rise. -/
def insertKey (keys : Array Key) (key : Key) : Array Key :=
  siftUp (keys.push key) keys.size (by simp)

/-- Replaces the root by the last key and lets that sink. -/
def removeRoot (keys : Array Key) : Array Key :=
  if nonempty : 0 < keys.size then
    siftDown (keys.swap 0 (keys.size - 1) nonempty (by omega)).pop 0
  else keys

/-- Adds a key, if the caller is the owner. -/
def push (heap : KeyHeap) (caller : Address) (key : Key) : KeyHeap :=
  if heap.owner = caller then { heap with keys := insertKey heap.keys key } else heap

/-- Removes the smallest key, if the caller is the owner, and returns it. -/
def pop (heap : KeyHeap) (caller : Address) : Key × KeyHeap :=
  if heap.owner = caller then (heap.top, { heap with keys := removeRoot heap.keys }) else (0, heap)

/-- Hands the heap over, if the caller is the owner. -/
def setOwner (heap : KeyHeap) (caller newOwner : Address) : KeyHeap :=
  if heap.owner = caller then { heap with owner := newOwner } else heap

/-- The first index whose key is smaller than its parent's. -/
def disorder? (heap : KeyHeap) : Option Nat :=
  (List.range heap.size).find? fun i =>
    heap.keys[i]?.getD 0 < heap.keys[parent i]?.getD 0

/-- Accepts heaps in heap order. -/
def checkOrder (heap : KeyHeap) : Except Error Unit :=
  match heap.disorder? with
  | some index => .error (.heapOrderViolated index)
  | none => .ok ()

/-- The escrow that the orders of a heap commit: the sum of their quantities. -/
def committed (heap : KeyHeap) (side : Side) : Nat :=
  sumOver (fun key => (Order.ofKey side key).quantity.toNat) heap.keys.toList

end KeyHeap

end DoubleAuction
