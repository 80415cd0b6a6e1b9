import DoubleAuction.Proofs.Book.Contents

/-! # Heap order

A heap is in order when no key is smaller than its parent's (`Ordered`), which is what
`checkOrder` accepts (`checkOrder_eq_ok_iff`). Then its root is the smallest key (`top_le`). A sift
begins with an array that is in order but for one key, the hole, and moves the hole until the key
fits: `OrderedAbove` is what holds while a key rises and `OrderedBelow` while it sinks. Every push
and every pop therefore leaves a heap in order.
-/

namespace DoubleAuction.KeyHeap

/-- The key at an index, or `0` behind the last one. -/
def keyAt (keys : Array Key) (i : Nat) : Key := keys[i]?.getD 0

/-- No key is smaller than its parent's. -/
def Ordered (keys : Array Key) : Prop :=
  ∀ i, i < keys.size → keyAt keys (parent i) ≤ keyAt keys i

section Entries

variable {keys : Array Key} {i j : Nat}

theorem keyAt_eq (inside : i < keys.size) : keyAt keys i = keys[i] := by
  simp [keyAt, inside]

theorem keyAt_swap (left : i < keys.size) (right : j < keys.size) (k : Nat) :
    keyAt (keys.swap i j left right) k =
      if k = i then keyAt keys j else if k = j then keyAt keys i else keyAt keys k := by
  by_cases inside : k < keys.size
  · rw [keyAt_eq (by simpa using inside), keyAt_eq left, keyAt_eq right, keyAt_eq inside,
      Array.getElem_swap]
  · have first : k ≠ i := by omega
    have second : k ≠ j := by omega
    simp [keyAt, first, second, inside]

theorem keyAt_push (key : Key) (inside : i < keys.size) :
    keyAt (keys.push key) i = keyAt keys i := by
  simp [keyAt, Array.getElem?_push, Nat.ne_of_lt inside]

theorem keyAt_pop (inside : i < keys.pop.size) : keyAt keys.pop i = keyAt keys i := by
  have before : i < keys.size := by
    rw [Array.size_pop] at inside
    omega
  rw [keyAt_eq inside, keyAt_eq before, Array.getElem_pop]

end Entries

/-- In order but for the key at one index, which may be smaller than its parent's. -/
structure OrderedAbove (keys : Array Key) (hole : Nat) : Prop where
  elsewhere : ∀ i, i < keys.size → i ≠ hole → keyAt keys (parent i) ≤ keyAt keys i
  /-- The children of the hole are no smaller than its parent. -/
  across : 0 < hole → ∀ i, i < keys.size → parent i = hole → keyAt keys (parent hole) ≤ keyAt keys i

/-- In order but for the key at one index, which may be larger than its children's. -/
structure OrderedBelow (keys : Array Key) (hole : Nat) : Prop where
  elsewhere : ∀ i, i < keys.size → parent i ≠ hole → keyAt keys (parent i) ≤ keyAt keys i
  across : 0 < hole → ∀ i, i < keys.size → parent i = hole → keyAt keys (parent hole) ≤ keyAt keys i

section Rising

variable {keys : Array Key} {hole : Nat}

/-- A key that is no smaller than its parent's has found its place. -/
theorem OrderedAbove.settled (above : OrderedAbove keys hole)
    (placed : keyAt keys (parent hole) ≤ keyAt keys hole) : Ordered keys := by
  intro i inside
  by_cases here : i = hole
  · rw [here]
    exact placed
  · exact above.elsewhere i inside here

/-- Exchanging a key with its larger parent moves the hole there. -/
theorem OrderedAbove.rise (above : OrderedAbove keys hole) (inside : hole < keys.size)
    (positive : 0 < hole) (parentInside : parent hole < keys.size)
    (small : keyAt keys hole ≤ keyAt keys (parent hole)) :
    OrderedAbove (keys.swap (parent hole) hole parentInside inside) (parent hole) := by
  have up : parent hole < hole := parent_lt positive
  constructor
  · intro i bound off
    rw [Array.size_swap] at bound
    simp only [keyAt_swap, off, ↓reduceIte]
    by_cases atHole : i = hole
    · simp only [atHole, ↓reduceIte]
      exact small
    · have kept := above.elsewhere i bound atHole
      simp only [atHole, ↓reduceIte]
      by_cases childOfParent : parent i = parent hole
      · simp only [childOfParent, ↓reduceIte] at kept ⊢
        exact BitVec.le_trans small kept
      · simp only [childOfParent, ↓reduceIte]
        by_cases childOfHole : parent i = hole
        · simp only [childOfHole, ↓reduceIte]
          exact above.across positive i bound childOfHole
        · simp only [childOfHole, ↓reduceIte]
          exact kept
  · intro higher i bound child
    rw [Array.size_swap] at bound
    have top : parent (parent hole) < parent hole := parent_lt higher
    have chain := above.elsewhere (parent hole) parentInside (by omega)
    have low : i ≠ parent hole := by
      rintro rfl
      omega
    simp only [keyAt_swap, low, Nat.ne_of_lt top, Nat.ne_of_lt (Nat.lt_trans top up), ↓reduceIte]
    by_cases atHole : i = hole
    · simp only [atHole, ↓reduceIte]
      exact chain
    · have kept := above.elsewhere i bound atHole
      rw [child] at kept
      simp only [atHole, ↓reduceIte]
      exact BitVec.le_trans chain kept

theorem ordered_siftUp {keys : Array Key} {i : Nat} (inside : i < keys.size)
    (above : OrderedAbove keys i) : Ordered (siftUp keys i inside) := by
  fun_induction siftUp keys i inside with
  | case1 keys inside =>
    exact above.settled (BitVec.le_refl _)
  | case2 keys i inside root up settled =>
    apply above.settled
    rw [keyAt_eq inside, keyAt_eq (Nat.lt_trans up inside)]
    exact settled
  | case3 keys i inside root up large ih =>
    apply ih
    apply above.rise inside (Nat.pos_of_ne_zero root)
    rw [keyAt_eq inside, keyAt_eq (Nat.lt_trans up inside)]
    exact BitVec.le_of_lt (BitVec.not_le.mp large)

end Rising

section Sinking

variable {keys : Array Key} {hole child : Nat}

/-- The chosen child is a child, and no child is smaller. -/
theorem smallerChild?_smallest (chosen : smallerChild? keys hole = some child) :
    parent child = hole ∧
      ∀ i, i < keys.size → 0 < i → parent i = hole → keyAt keys child ≤ keyAt keys i := by
  have either (i : Nat) (positive : 0 < i) (below : parent i = hole) :
      i = 2 * hole + 1 ∨ i = 2 * hole + 2 := by
    unfold parent at below
    omega
  unfold smallerChild? at chosen
  split at chosen
  case isFalse => cases chosen
  case isTrue left =>
    split at chosen
    case isTrue right =>
      split at chosen
      case isTrue rightSmaller =>
        cases chosen
        refine ⟨by unfold parent; omega, ?_⟩
        intro i inside positive below
        rcases either i positive below with rfl | rfl
        · rw [keyAt_eq left, keyAt_eq right]
          exact BitVec.le_of_lt rightSmaller
        · exact BitVec.le_refl _
      case isFalse leftSmaller =>
        cases chosen
        refine ⟨by unfold parent; omega, ?_⟩
        intro i inside positive below
        rcases either i positive below with rfl | rfl
        · exact BitVec.le_refl _
        · rw [keyAt_eq left, keyAt_eq right]
          exact BitVec.not_lt.mp leftSmaller
    case isFalse alone =>
      cases chosen
      refine ⟨by unfold parent; omega, ?_⟩
      intro i inside positive below
      rcases either i positive below with rfl | rfl
      · exact BitVec.le_refl _
      · exact absurd inside alone

theorem smallerChild?_eq_none (childless : smallerChild? keys hole = none) {i : Nat}
    (inside : i < keys.size) (positive : 0 < i) : parent i ≠ hole := by
  unfold smallerChild? at childless
  split at childless
  case isTrue =>
    split at childless
    case isTrue => split at childless <;> cases childless
    case isFalse => cases childless
  case isFalse outside =>
    unfold parent
    omega

/-- A key that is no larger than its children has found its place. -/
theorem OrderedBelow.settled (below : OrderedBelow keys hole)
    (placed : ∀ i, i < keys.size → 0 < i → parent i = hole → keyAt keys hole ≤ keyAt keys i) :
    Ordered keys := by
  intro i inside
  by_cases child : parent i = hole
  · by_cases root : i = 0
    · rw [root]
      exact BitVec.le_refl _
    · rw [child]
      exact placed i inside (Nat.pos_of_ne_zero root) child
  · exact below.elsewhere i inside child

/-- Exchanging a key with its smallest child moves the hole there. -/
theorem OrderedBelow.sink (below : OrderedBelow keys hole)
    (chosen : smallerChild? keys hole = some child) (inside : child < keys.size)
    (holeInside : hole < keys.size) (large : keyAt keys child ≤ keyAt keys hole) :
    OrderedBelow (keys.swap hole child holeInside inside) child := by
  have down : hole < child := (smallerChild?_bounds chosen).1
  obtain ⟨isChild, smallest⟩ := smallerChild?_smallest chosen
  constructor
  · intro i bound off
    rw [Array.size_swap] at bound
    simp only [keyAt_swap, off, ↓reduceIte]
    by_cases atChild : i = child
    · simp only [atChild, isChild, Nat.ne_of_gt down, ↓reduceIte]
      exact large
    · by_cases atHole : i = hole
      · by_cases root : i = 0
        · have itself : parent hole = hole := by rw [← atHole, root]; rfl
          simp only [atHole, itself, ↓reduceIte]
          exact BitVec.le_refl _
        · have up : parent hole < hole := parent_lt (by omega)
          have kept := below.across (by omega) child inside isChild
          simp only [atHole, Nat.ne_of_lt up, ↓reduceIte]
          exact kept
      · simp only [atChild, atHole, ↓reduceIte]
        by_cases childOfHole : parent i = hole
        · have positive : 0 < i := by
            apply Nat.pos_of_ne_zero
            rintro rfl
            exact atHole childOfHole
          simp only [childOfHole, ↓reduceIte]
          exact smallest i bound positive childOfHole
        · simp only [childOfHole, ↓reduceIte]
          exact below.elsewhere i bound childOfHole
  · intro _ i bound grandchild
    rw [Array.size_swap] at bound
    have kept := below.elsewhere i bound (by omega)
    have deep := parent_le i
    have low : i ≠ child := by
      rintro rfl
      omega
    have apart : i ≠ hole := by omega
    rw [grandchild] at kept
    simp only [keyAt_swap, isChild, low, apart, ↓reduceIte]
    exact kept

theorem ordered_siftDown {keys : Array Key} {i : Nat} (below : OrderedBelow keys i) :
    Ordered (siftDown keys i) := by
  fun_induction siftDown keys i with
  | case1 keys i childless =>
    apply below.settled
    intro child inside positive isChild
    exact absurd isChild (smallerChild?_eq_none childless inside positive)
  | case2 keys i child chosen down inside settled =>
    apply below.settled
    intro other bound positive isChild
    have least := (smallerChild?_smallest chosen).2 other bound positive isChild
    rw [keyAt_eq inside] at least
    rw [keyAt_eq (Nat.lt_trans down inside)]
    exact BitVec.le_trans settled least
  | case3 keys i child chosen down inside large ih =>
    apply ih
    apply below.sink chosen inside (Nat.lt_trans down inside)
    rw [keyAt_eq inside, keyAt_eq (Nat.lt_trans down inside)]
    exact BitVec.le_of_lt (BitVec.not_le.mp large)

end Sinking

section Operations

variable {keys : Array Key}

/-- The root is the smallest key. -/
theorem Ordered.root_le (ordered : Ordered keys) {i : Nat} (inside : i < keys.size) :
    keyAt keys 0 ≤ keyAt keys i := by
  induction i using Nat.strongRecOn with
  | ind i ih =>
    by_cases root : i = 0
    · rw [root]
      exact BitVec.le_refl _
    · have up := parent_lt (Nat.pos_of_ne_zero root)
      exact BitVec.le_trans (ih (parent i) up (Nat.lt_trans up inside)) (ordered i inside)

theorem ordered_insertKey (ordered : Ordered keys) (key : Key) : Ordered (insertKey keys key) := by
  apply ordered_siftUp
  constructor
  · intro i bound new
    rw [Array.size_push] at bound
    have old : i < keys.size := by omega
    rw [keyAt_push key old, keyAt_push key (Nat.lt_of_le_of_lt (parent_le i) old)]
    exact ordered i old
  · intro positive i bound child
    rw [Array.size_push] at bound
    have up := parent_le i
    have new : i = keys.size := by omega
    have below := parent_lt positive
    rw [new] at child
    omega

theorem ordered_removeRoot (ordered : Ordered keys) : Ordered (removeRoot keys) := by
  unfold removeRoot
  split
  case isFalse => exact ordered
  case isTrue nonempty =>
    apply ordered_siftDown
    constructor
    · intro i bound notRoot
      have small : i < keys.size - 1 := by simpa using bound
      have up := parent_le i
      have positive : i ≠ 0 := by
        rintro rfl
        exact notRoot rfl
      rw [keyAt_pop bound, keyAt_pop (Nat.lt_of_le_of_lt up bound), keyAt_swap, keyAt_swap]
      simp only [notRoot, positive, Nat.ne_of_lt small, Nat.ne_of_lt (Nat.lt_of_le_of_lt up small),
        ↓reduceIte]
      exact ordered i (by omega)
    · intro positive
      cases positive

end Operations

section Heaps

variable {heap : KeyHeap} {caller : Address}

theorem checkOrder_eq_ok_iff : heap.checkOrder = .ok () ↔ Ordered heap.keys := by
  have found : heap.checkOrder = .ok () ↔ heap.disorder? = none := by
    unfold checkOrder
    cases heap.disorder? <;> simp
  rw [found]
  simp only [disorder?, List.find?_eq_none, List.mem_range, decide_eq_true_eq, BitVec.not_lt]
  rfl

theorem top_le (ordered : Ordered heap.keys) {key : Key} (member : key ∈ heap.keys.toList) :
    heap.top ≤ key := by
  obtain ⟨i, inside, rfl⟩ := List.getElem_of_mem member
  rw [Array.length_toList] at inside
  have least := ordered.root_le inside
  rwa [keyAt_eq inside] at least

/-- A key that is no larger than any other is the one at the top. -/
theorem top_eq_of_least (ordered : Ordered heap.keys) {key : Key} (member : key ∈ heap.keys.toList)
    (least : ∀ other ∈ heap.keys.toList, key ≤ other) : heap.top = key := by
  have nonempty : 0 < heap.keys.size := by
    rw [← Array.length_toList]
    exact List.length_pos_of_mem member
  exact BitVec.le_antisymm (top_le ordered member) (least heap.top (top_mem nonempty))

theorem ordered_push (ordered : Ordered heap.keys) (caller : Address) (key : Key) :
    Ordered (heap.push caller key).keys := by
  unfold push
  split
  case isTrue => exact ordered_insertKey ordered key
  case isFalse => exact ordered

theorem ordered_pop (ordered : Ordered heap.keys) (caller : Address) :
    Ordered (heap.pop caller).2.keys := by
  unfold pop
  split
  case isTrue => exact ordered_removeRoot ordered
  case isFalse => exact ordered

theorem ordered_replaceTop (ordered : Ordered heap.keys) (operator : Address) (order : Order)
    (residual : UInt64) : Ordered (heap.replaceTop operator order residual).keys := by
  have popped := ordered_pop ordered operator
  simp only [replaceTop]
  split
  case isTrue => exact popped
  case isFalse => exact ordered_push popped operator _

end Heaps

end DoubleAuction.KeyHeap
