import DoubleAuction.Book.KeyHeap

/-! # Calls on a heap

Anyone may call a heap: to change it, which it lets only its owner do, or to read it. A run is a
list of calls, with an answer to each.
-/

namespace DoubleAuction.KeyHeap

/-- The answer to a call. -/
inductive Answer where
  | done
  | key (key : Key)
  | count (count : Nat)
  deriving DecidableEq, Repr

/-- A change that a caller may ask for. -/
inductive Change where
  | push (key : Key)
  | pop
  | setOwner (newOwner : Address)
  deriving DecidableEq, Repr

/-- A change asked for by a caller, or a read. -/
inductive Call where
  | change (caller : Address) (change : Change)
  | top
  | size
  deriving DecidableEq, Repr

/-- The answer to anyone but the owner. -/
def Change.refusal : Change → Answer
  | .push _ => .done
  | .pop => .key 0
  | .setOwner _ => .done

/-- Makes a change, if the caller is the owner. -/
def change (heap : KeyHeap) (caller : Address) : Change → Answer × KeyHeap
  | .push key => (.done, heap.push caller key)
  | .pop =>
    let (key, rest) := heap.pop caller
    (.key key, rest)
  | .setOwner newOwner => (.done, heap.setOwner caller newOwner)

/-- Answers a call. -/
def call (heap : KeyHeap) : Call → Answer × KeyHeap
  | .change caller change => heap.change caller change
  | .top => (.key heap.top, heap)
  | .size => (.count heap.size, heap)

/-- Answers calls in order. -/
def run (heap : KeyHeap) : List Call → List Answer × KeyHeap
  | [] => ([], heap)
  | first :: rest =>
    let (answer, next) := heap.call first
    let (answers, last) := next.run rest
    (answer :: answers, last)

end DoubleAuction.KeyHeap
