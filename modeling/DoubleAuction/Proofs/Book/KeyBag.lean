import DoubleAuction.Book.Calls
import DoubleAuction.Proofs.Matching.SortedBook
import Mathlib.Data.Multiset.Sort

/-! # A heap is a bag of keys with an owner

Forgetting the places of its keys, a heap is a multiset: its owner adds keys to it and takes the
smallest one out of it (`KeyBag`). A heap in order answers every call as its bag does
(`call_bag`), whoever calls, and stays in order, so it does in any run (`run_bag`). Taking keys out
until none is left then lists them in ascending order (`run_pops`).
-/

namespace DoubleAuction

/-- Keys without places, and their owner. -/
structure KeyBag where
  owner : Address
  keys : Multiset Key

instance : IsTrans Key (· ≤ ·) := ⟨fun _ _ _ => BitVec.le_trans⟩

instance : Std.Antisymm (α := Key) (· ≤ ·) := ⟨fun _ _ => BitVec.le_antisymm⟩

instance : Std.Total (α := Key) (· ≤ ·) := ⟨fun _ _ => BitVec.le_total _ _⟩

namespace KeyBag

/-- The smallest key, or `0` when there is none. -/
def least (bag : KeyBag) : Key := (bag.keys.sort (· ≤ ·)).headD 0

/-- A change made by the owner. -/
def change (bag : KeyBag) : KeyHeap.Change → KeyHeap.Answer × KeyBag
  | .push key => (.done, { bag with keys := key ::ₘ bag.keys })
  | .pop => (.key bag.least, { bag with keys := bag.keys.erase bag.least })
  | .setOwner newOwner => (.done, { bag with owner := newOwner })

/-- Answers a call; a change asked for by anyone but the owner is refused. -/
def call (bag : KeyBag) : KeyHeap.Call → KeyHeap.Answer × KeyBag
  | .change caller change =>
    if bag.owner = caller then bag.change change else (change.refusal, bag)
  | .top => (.key bag.least, bag)
  | .size => (.count bag.keys.card, bag)

/-- Answers calls in order. -/
def run (bag : KeyBag) : List KeyHeap.Call → List KeyHeap.Answer × KeyBag
  | [] => ([], bag)
  | first :: rest =>
    let (answer, next) := bag.call first
    let (answers, last) := next.run rest
    (answer :: answers, last)

end KeyBag

namespace KeyHeap

/-- The keys of a heap without their places. -/
def bag (heap : KeyHeap) : KeyBag := ⟨heap.owner, heap.keys.toList⟩

section Bag

variable {heap : KeyHeap} {caller : Address}

theorem sortsTo_bag (ordered : Ordered heap.keys) : heap.SortsTo (heap.bag.keys.sort (· ≤ ·)) where
  ordered
  ascending := Multiset.pairwise_sort _ _
  perm := by
    rw [← Multiset.coe_eq_coe, Multiset.sort_eq]
    rfl

/-- The top of a heap in order is the smallest key of its bag. -/
theorem top_eq_least (ordered : Ordered heap.keys) : heap.top = heap.bag.least := by
  have sorts := sortsTo_bag ordered
  unfold KeyBag.least
  generalize heap.bag.keys.sort (· ≤ ·) = keys at sorts
  cases keys with
  | nil => simp [top, Array.eq_empty_of_size_eq_zero sorts.size]
  | cons key rest => exact sorts.top_eq_head

theorem bag_push (owned : heap.owner = caller) (key : Key) :
    (heap.push caller key).bag = { heap.bag with keys := key ::ₘ heap.bag.keys } := by
  simp only [bag, owner_push, Multiset.cons_coe, KeyBag.mk.injEq, true_and, Multiset.coe_eq_coe]
  exact push_perm owned key

theorem bag_pop (ordered : Ordered heap.keys) (owned : heap.owner = caller) :
    (heap.pop caller).2.bag = (heap.bag.change .pop).2 := by
  rw [KeyBag.change, ← top_eq_least ordered]
  simp only [bag, owner_pop, Multiset.coe_erase, KeyBag.mk.injEq, true_and, Multiset.coe_eq_coe]
  by_cases nonempty : 0 < heap.keys.size
  · have erased := (pop_perm owned nonempty).erase heap.top
    rwa [List.erase_cons_head] at erased
  · have empty : heap.keys = #[] := Array.eq_empty_of_size_eq_zero (Nat.eq_zero_of_not_pos nonempty)
    simp [pop, owned, removeRoot, empty]

/-- Anyone but the owner is refused, and leaves every key at its place. -/
theorem change_of_stranger (stranger : caller ≠ heap.owner) (change : Change) :
    heap.change caller change = (change.refusal, heap) := by
  cases change <;> simp [KeyHeap.change, push, pop, setOwner, Change.refusal, stranger.symm]

/-- What the owner changes is changed in the bag. -/
theorem change_of_owner (ordered : Ordered heap.keys) (owned : heap.owner = caller)
    (change : Change) :
    ((heap.change caller change).1, (heap.change caller change).2.bag) =
      heap.bag.change change := by
  cases change with
  | push key => exact congrArg _ (bag_push owned key)
  | pop =>
    have answer : (heap.pop caller).1 = heap.bag.least := by
      simp only [pop, owned, ↓reduceIte, top_eq_least ordered]
    exact Prod.ext (congrArg Answer.key answer) (bag_pop ordered owned)
  | setOwner newOwner => simp [KeyHeap.change, KeyBag.change, setOwner, owned, bag]

theorem ordered_change (ordered : Ordered heap.keys) (caller : Address) (change : Change) :
    Ordered (heap.change caller change).2.keys := by
  cases change with
  | push key => exact ordered_push ordered caller key
  | pop => exact ordered_pop ordered caller
  | setOwner newOwner =>
    simp only [KeyHeap.change, setOwner]
    split <;> exact ordered

end Bag

section Runs

variable {heap : KeyHeap}

/-- A heap in order answers a call as its bag does, and stays in order. -/
theorem call_bag (ordered : Ordered heap.keys) (call : Call) :
    ((heap.call call).1, (heap.call call).2.bag) = heap.bag.call call ∧
      Ordered (heap.call call).2.keys := by
  cases call with
  | change caller change =>
    refine ⟨?_, ordered_change ordered caller change⟩
    simp only [KeyHeap.call, KeyBag.call]
    split
    case isTrue owned => exact change_of_owner ordered owned change
    case isFalse stranger => rw [change_of_stranger (Ne.symm stranger)]
  | top =>
    refine ⟨?_, ordered⟩
    simp only [KeyHeap.call, KeyBag.call, top_eq_least ordered]
  | size =>
    refine ⟨?_, ordered⟩
    simp [KeyHeap.call, KeyBag.call, size, bag]

/-- A heap in order answers calls as its bag does, and stays in order. -/
theorem run_bag (ordered : Ordered heap.keys) (calls : List Call) :
    ((heap.run calls).1, (heap.run calls).2.bag) = heap.bag.run calls ∧
      Ordered (heap.run calls).2.keys := by
  induction calls generalizing heap with
  | nil => exact ⟨rfl, ordered⟩
  | cons first rest ih =>
    obtain ⟨same, stillOrdered⟩ := call_bag ordered first
    obtain ⟨later, lastOrdered⟩ := ih stillOrdered
    refine ⟨?_, lastOrdered⟩
    simp only [run, KeyBag.run, ← same, ← later]

/-- Taking out as many keys as there are lists them in ascending order. -/
theorem run_pops {keys : List Key} {caller : Address} (sorts : heap.SortsTo keys)
    (owned : heap.owner = caller) :
    heap.run (List.replicate keys.length (.change caller .pop)) =
      (keys.map .key, { heap with keys := #[] }) := by
  induction keys generalizing heap with
  | nil =>
    have empty : heap.keys = #[] := Array.eq_empty_of_size_eq_zero sorts.size
    simp only [List.length_nil, List.replicate_zero, run, List.map_nil, ← empty]
  | cons key rest ih =>
    have answer : (heap.pop caller).1 = key := by
      simp only [pop, owned, ↓reduceIte, sorts.top_eq_head]
    have later := ih (sorts.pop owned) ((owner_pop heap caller).trans owned)
    simp only [List.length_cons, List.replicate_succ, run, call, change, later, answer,
      List.map_cons, id_pop, owner_pop]

/-- In every run by any callers a heap in order acts as a bag of keys: it gives the answers of the
bag and ends with the keys and the owner of the bag, in order again. Its top is the smallest key,
changes by anyone but the owner leave it as it is, and its owner can take out all keys in ascending
order. -/
theorem run_as_bag (heap : KeyHeap) (checked : heap.checkOrder = .ok ()) (calls : List Call) :
    let last := (heap.run calls).2
    ((heap.run calls).1, last.bag) = heap.bag.run calls ∧
      last.checkOrder = .ok () ∧
      last.size = last.bag.keys.card ∧
      (last.bag.keys = 0 → last.top = 0) ∧
      (∀ key ∈ last.bag.keys, last.top ∈ last.bag.keys ∧ last.top ≤ key) ∧
      (∀ caller change, caller ≠ last.owner →
        last.change caller change = (change.refusal, last)) ∧
      ∃ keys : List Key, keys.Pairwise (· ≤ ·) ∧ (keys : Multiset Key) = last.bag.keys ∧
        last.run (List.replicate last.size (.change last.owner .pop)) =
          (keys.map .key, { last with keys := #[] }) := by
  intro last
  obtain ⟨same, ordered⟩ := run_bag (checkOrder_eq_ok_iff.mp checked) calls
  refine ⟨same, checkOrder_eq_ok_iff.mpr ordered, ?_, ?_, ?_, ?_, ?_⟩
  · simp [size, bag]
  · intro empty
    rw [top_eq_least ordered, KeyBag.least, empty, Multiset.sort_zero, List.headD_nil]
  · intro key member
    have nonempty : 0 < last.keys.size := by
      rw [← Array.length_toList]
      exact List.length_pos_of_mem member
    exact ⟨top_mem nonempty, top_le ordered member⟩
  · intro caller change stranger
    exact change_of_stranger stranger change
  · have sorts := sortsTo_bag ordered
    refine ⟨_, sorts.ascending, Multiset.sort_eq _ _, ?_⟩
    have pops := run_pops sorts rfl
    rwa [← sorts.size] at pops

/-- A key held twice above a larger one. -/
def twinHeap : KeyHeap := ⟨⟨0xb1⟩, ⟨0x0a⟩, #[3, 7, 3]⟩

/-- A stranger, the owner and the next owner call the heap. -/
def twinCalls : List Call :=
  [.change ⟨0x0c⟩ (.push 1), .change ⟨0x0a⟩ .pop, .change ⟨0x0a⟩ (.setOwner ⟨0x0b⟩),
    .change ⟨0x0a⟩ .pop, .change ⟨0x0b⟩ (.push 2), .top, .size]

theorem twinHeap_as_bag :
    twinHeap.checkOrder = .ok () ∧
      (twinHeap.run twinCalls).1 = [.done, .key 3, .done, .key 0, .done, .key 2, .count 3] ∧
      ((twinHeap.run twinCalls).1, (twinHeap.run twinCalls).2.bag) =
        twinHeap.bag.run twinCalls := by
  have checked : twinHeap.checkOrder = .ok () := by decide +kernel
  exact ⟨checked, by decide +kernel, (run_as_bag twinHeap checked twinCalls).1⟩

end Runs

end KeyHeap

end DoubleAuction
