import DoubleAuction.Matching.SortedBook
import DoubleAuction.Proofs.Book.HeapOrder
import DoubleAuction.Proofs.Matching.MatchPath
import DoubleAuction.Proofs.Order.Priority

/-! # Clearing heaps refines clearing sorted lists

Between a heap in order and the ascending list of its keys (`SortsTo`), the top corresponds to the
head, a pop to the tail, and what stays resting of the top order to a new head: its key is no larger
than the one it replaces. So a match keeps heaps and lists together (`sortsTo_replaceTops`), and by
induction clearing the heaps makes the matches of the reference matcher (`matchTops_sortsTo`). Heaps
that hold the same keys sort to the same lists, whatever the order in which they were pushed.
-/

namespace DoubleAuction

namespace KeyHeap

/-- A heap in order, and its keys in ascending order. -/
structure SortsTo (heap : KeyHeap) (keys : List Key) : Prop where
  ordered : Ordered heap.keys
  ascending : keys.Pairwise (· ≤ ·)
  perm : heap.keys.toList.Perm keys

section SortsTo

variable {heap : KeyHeap} {caller : Address} {key : Key} {rest keys : List Key}

theorem sortsTo_mergeSort (ordered : Ordered heap.keys) :
    heap.SortsTo (heap.keys.toList.mergeSort fun left right => left ≤ right) where
  ordered
  ascending := by
    have sorted : (heap.keys.toList.mergeSort fun left right => left ≤ right).Pairwise
        fun left right => decide (left ≤ right) = true := by
      apply List.pairwise_mergeSort
      · intro first middle last left right
        simp only [decide_eq_true_eq] at left right ⊢
        exact BitVec.le_trans left right
      · intro left right
        simpa only [Bool.or_eq_true, decide_eq_true_eq] using BitVec.le_total left right
    simpa only [decide_eq_true_eq] using sorted
  perm := (List.mergeSort_perm _ _).symm

/-- Heaps with the same keys sort to the same list. -/
theorem SortsTo.unique {other : KeyHeap} {others : List Key} (sorts : heap.SortsTo keys)
    (sortsOther : other.SortsTo others) (same : heap.keys.toList.Perm other.keys.toList) :
    keys = others := by
  have antisymm (left right : Key) (_ : left ∈ keys) (_ : right ∈ others) (less : left ≤ right)
      (more : right ≤ left) : left = right := BitVec.le_antisymm less more
  have perm : keys.Perm others := sorts.perm.symm.trans (same.trans sortsOther.perm)
  exact perm.eq_of_pairwise antisymm sorts.ascending sortsOther.ascending

theorem SortsTo.size (sorts : heap.SortsTo keys) : heap.keys.size = keys.length := by
  rw [← Array.length_toList, sorts.perm.length_eq]

/-- The head of the list is at the top of the heap. -/
theorem SortsTo.top_eq_head (sorts : heap.SortsTo (key :: rest)) : heap.top = key := by
  apply top_eq_of_least sorts.ordered
  · exact sorts.perm.mem_iff.mpr List.mem_cons_self
  · intro other member
    rcases List.mem_cons.mp (sorts.perm.mem_iff.mp member) with rfl | later
    · exact BitVec.le_refl _
    · exact (List.pairwise_cons.mp sorts.ascending).1 other later

/-- Taking the top off the heap takes the head off the list. -/
theorem SortsTo.pop (sorts : heap.SortsTo (key :: rest)) (owned : heap.owner = caller) :
    (heap.pop caller).2.SortsTo rest where
  ordered := ordered_pop sorts.ordered caller
  ascending := sorts.ascending.tail
  perm := by
    have nonempty : 0 < heap.keys.size := by
      rw [sorts.size]
      exact Nat.succ_pos _
    have whole := (pop_perm owned nonempty).trans sorts.perm
    rw [sorts.top_eq_head] at whole
    exact whole.cons_inv

/-- A key that is no larger than any other goes to the head of the list. -/
theorem SortsTo.push (sorts : heap.SortsTo keys) (owned : heap.owner = caller)
    (least : ∀ other ∈ keys, key ≤ other) : (heap.push caller key).SortsTo (key :: keys) where
  ordered := ordered_push sorts.ordered caller key
  ascending := List.pairwise_cons.mpr ⟨least, sorts.ascending⟩
  perm := (push_perm owned key).trans (sorts.perm.cons key)

/-- What stays resting of the top order stays at the head of the list. -/
theorem SortsTo.replaceTop (sorts : heap.SortsTo (key :: rest)) (owned : heap.owner = caller)
    {side : Side} {residual : UInt64} (less : residual ≤ (Order.ofKey side key).quantity) :
    (heap.replaceTop caller (Order.ofKey side key) residual).SortsTo
      (SortedBook.replaceHead (key :: rest) (Order.ofKey side key) residual) := by
  have popped := sorts.pop owned
  simp only [KeyHeap.replaceTop, SortedBook.replaceHead, List.tail_cons]
  split
  case isTrue => exact popped
  case isFalse =>
    apply popped.push ((owner_pop heap caller).trans owned)
    intro other member
    have before := Order.key_withQuantity_le side key less
    exact BitVec.le_trans before ((List.pairwise_cons.mp sorts.ascending).1 other member)

end SortsTo

/-- The heap with more keys pushed, one after the other. -/
def pushAll (heap : KeyHeap) (caller : Address) (keys : List Key) : KeyHeap :=
  keys.foldl (fun heap key => heap.push caller key) heap

/-- Pushing keys one after the other adds them all and leaves the heap in order. -/
theorem pushAll_of_owner {heap : KeyHeap} {caller : Address} (owned : heap.owner = caller)
    (ordered : Ordered heap.keys) (keys : List Key) :
    (heap.pushAll caller keys).owner = caller ∧ Ordered (heap.pushAll caller keys).keys ∧
      (heap.pushAll caller keys).keys.toList.Perm (keys ++ heap.keys.toList) := by
  induction keys generalizing heap with
  | nil => exact ⟨owned, ordered, .refl _⟩
  | cons key rest ih =>
    obtain ⟨stillOwned, stillOrdered, perm⟩ := ih ((owner_push heap caller key).trans owned)
      (ordered_push ordered caller key)
    refine ⟨stillOwned, stillOrdered, perm.trans ?_⟩
    exact ((push_perm owned key).append_left rest).trans List.perm_middle

end KeyHeap

section Refinement

variable {operator : Address} {heaps : Sided KeyHeap} {book : SortedBook}

theorem bestPair_eq_heads (sorts : ∀ side, (heaps.get side).SortsTo (book.get side)) :
    bestPair heaps = book.heads := by
  obtain ⟨bids, asks⟩ := book
  have buy : heaps.buy.SortsTo bids := sorts .buy
  have sell : heaps.sell.SortsTo asks := sorts .sell
  have bidSize := buy.size
  have askSize := sell.size
  cases bids with
  | nil => exact bestPair_of_empty .buy bidSize
  | cons bidKey bids =>
    cases asks with
    | nil => exact bestPair_of_empty .sell askSize
    | cons askKey asks =>
      have nonempty (side : Side) : 0 < (heaps.get side).keys.size := by
        cases side with
        | buy => exact Nat.lt_of_lt_of_eq (Nat.succ_pos _) bidSize.symm
        | sell => exact Nat.lt_of_lt_of_eq (Nat.succ_pos _) askSize.symm
      rw [bestPair_of_nonempty nonempty, buy.top_eq_head, sell.top_eq_head]
      rfl

/-- A match keeps every heap and its list together. -/
theorem sortsTo_replaceTops (sorts : ∀ side, (heaps.get side).SortsTo (book.get side))
    (owned : ∀ side, (heaps.get side).owner = operator) {bid ask : Order} {fill : Fill}
    (pair : bestPair heaps = .ok (some (bid, ask))) (settles : Settles bid ask fill) (side : Side) :
    ((replaceTops operator heaps bid ask fill).get side).SortsTo
      ((Sided.mk (SortedBook.replaceHead book.buy bid fill.bidResidual)
        (SortedBook.replaceHead book.sell ask fill.askResidual)).get side) := by
  obtain ⟨nonempty, decoded, _⟩ := (bestPair_eq_some pair).1 side
  have here := sorts side
  have lists : (Sided.mk (SortedBook.replaceHead book.buy bid fill.bidResidual)
      (SortedBook.replaceHead book.sell ask fill.askResidual)).get side =
        SortedBook.replaceHead (book.get side) ((Sided.mk bid ask).get side)
          (fill.residual side) := by
    cases side <;> rfl
  rw [lists, get_replaceTops]
  have less := settles.residual_le side
  generalize (Sided.mk bid ask).get side = order at decoded less ⊢
  generalize book.get side = keys at here ⊢
  cases keys with
  | nil =>
    rw [here.size] at nonempty
    cases nonempty
  | cons key rest =>
    rw [here.top_eq_head] at decoded
    subst decoded
    exact here.replaceTop (owned side) less

/-- Matching heaps and matching the lists of their keys go through the same matches, and the heaps
that are left sort to the lists that are left. -/
theorem matchTops_sortsTo (sorts : ∀ side, (heaps.get side).SortsTo (book.get side))
    (owned : ∀ side, (heaps.get side).owner = operator) (budget : Budget) :
    (matchTops operator heaps budget).fills = (book.clear budget).fills ∧
      (matchTops operator heaps budget).budget = (book.clear budget).budget ∧
      (matchTops operator heaps budget).stop = (book.clear budget).stop ∧
      ∀ side, ((matchTops operator heaps budget).book.get side).SortsTo
        ((book.clear budget).book.get side) := by
  fun_induction matchTops operator heaps budget generalizing book with
  | case1 heaps budget error failed =>
    have same := (bestPair_eq_heads sorts).symm.trans failed
    rw [SortedBook.clear, same]
    exact ⟨rfl, rfl, rfl, sorts⟩
  | case2 heaps budget done =>
    have same := (bestPair_eq_heads sorts).symm.trans done
    rw [SortedBook.clear, same]
    exact ⟨rfl, rfl, rfl, sorts⟩
  | case3 heaps budget bid ask pair spent =>
    have same := (bestPair_eq_heads sorts).symm.trans pair
    rw [SortedBook.clear, same]
    dsimp only
    split
    case h_1 => exact ⟨rfl, rfl, rfl, sorts⟩
    case h_2 rest charged =>
      rw [spent] at charged
      cases charged
  | case4 heaps budget bid ask pair rest charged _ error failed =>
    exact absurd failed (settle_ne_error pair)
  | case5 heaps budget bid ask pair rest charged _ fill settled ih =>
    obtain ⟨_, settles⟩ := settles_of_settle pair settled
    have same := (bestPair_eq_heads sorts).symm.trans pair
    have later := ih (sortsTo_replaceTops sorts owned pair settles)
      (owner_replaceTops owned bid ask fill)
    rw [SortedBook.clear, same]
    dsimp only
    split
    case h_1 spent =>
      rw [charged] at spent
      cases spent
    case h_2 other alsoCharged =>
      obtain rfl : rest = other := Option.some.inj (charged.symm.trans alsoCharged)
      obtain ⟨fills, budget, stop, book⟩ := later
      simp only [settled, Clearing.after]
      exact ⟨congrArg (fill :: ·) fills, budget, stop, book⟩

/-- For the owner of two heaps in order, clearing goes through the same matches as clearing the
ascending lists of their keys. -/
theorem clear_sortsTo (owned : ∀ side, (heaps.get side).owner = operator)
    (ordered : ∀ side, KeyHeap.Ordered (heaps.get side).keys) (budget : Budget) :
    (clear heaps operator budget).fills = ((SortedBook.ofHeaps heaps).clear budget).fills ∧
      (clear heaps operator budget).budget = ((SortedBook.ofHeaps heaps).clear budget).budget ∧
      (clear heaps operator budget).stop = ((SortedBook.ofHeaps heaps).clear budget).stop ∧
      ∀ side, ((clear heaps operator budget).book.get side).SortsTo
        (((SortedBook.ofHeaps heaps).clear budget).book.get side) := by
  rw [clear_of_owned owned]
  apply matchTops_sortsTo _ owned
  intro side
  rw [SortedBook.ofHeaps, Sided.get_map]
  exact KeyHeap.sortsTo_mergeSort (ordered side)

/-- The ascending lists of two books with the same keys are the same. -/
theorem ofHeaps_eq_of_perm {others : Sided KeyHeap}
    (ordered : ∀ side, KeyHeap.Ordered (heaps.get side).keys)
    (othersOrdered : ∀ side, KeyHeap.Ordered (others.get side).keys)
    (same : ∀ side, (heaps.get side).keys.toList.Perm (others.get side).keys.toList) :
    SortedBook.ofHeaps heaps = SortedBook.ofHeaps others := by
  apply Sided.ext
  intro side
  rw [SortedBook.ofHeaps, SortedBook.ofHeaps, Sided.get_map, Sided.get_map]
  exact (KeyHeap.sortsTo_mergeSort (ordered side)).unique
    (KeyHeap.sortsTo_mergeSort (othersOrdered side)) (same side)

end Refinement

/-- The heaps of an operator after pushing keys, one after the other. -/
def heapsOf (operator : Address) (ids : Sided Address) (keys : Sided (List Key)) : Sided KeyHeap :=
  .ofFn fun side => (KeyHeap.create (ids.get side) operator).pushAll operator (keys.get side)

theorem heapsOf_built (operator : Address) (ids : Sided Address) (keys : Sided (List Key))
    (side : Side) :
    ((heapsOf operator ids keys).get side).owner = operator ∧
      KeyHeap.Ordered ((heapsOf operator ids keys).get side).keys ∧
      ((heapsOf operator ids keys).get side).keys.toList.Perm (keys.get side) := by
  have owned : (KeyHeap.create (ids.get side) operator).owner = operator := rfl
  have ordered : KeyHeap.Ordered (KeyHeap.create (ids.get side) operator).keys := by
    intro i inside
    cases inside
  have built := KeyHeap.pushAll_of_owner owned ordered (keys.get side)
  simpa [heapsOf, KeyHeap.create] using built

/-- Clearing two heaps in order makes the same matches and ends in the same way as clearing the
ascending lists of their keys, and leaves the same keys. So it does not matter in which order the
keys were pushed. -/
theorem clear_refines_sortedBook (operator : Address) (budget : Budget) :
    (∀ heaps : Sided KeyHeap, (∀ side, (heaps.get side).owner = operator) →
      (∀ side, (heaps.get side).checkOrder = .ok ()) →
      let cleared := clear heaps operator budget
      let reference := (SortedBook.ofHeaps heaps).clear budget
      cleared.fills = reference.fills ∧ cleared.budget = reference.budget ∧
        cleared.stop = reference.stop ∧
        ∀ side, (cleared.book.get side).keys.toList.Perm (reference.book.get side)) ∧
    (∀ (ids otherIds : Sided Address) (keys others : Sided (List Key)),
      (∀ side, (keys.get side).Perm (others.get side)) →
      let first := clear (heapsOf operator ids keys) operator budget
      let second := clear (heapsOf operator otherIds others) operator budget
      first.fills = second.fills ∧ first.budget = second.budget ∧ first.stop = second.stop ∧
        ∀ side, (first.book.get side).keys.toList.Perm (second.book.get side).keys.toList) := by
  constructor
  · intro heaps owned checked
    have ordered (side : Side) := KeyHeap.checkOrder_eq_ok_iff.mp (checked side)
    obtain ⟨fills, left, stop, sorts⟩ := clear_sortsTo owned ordered budget
    exact ⟨fills, left, stop, fun side => (sorts side).perm⟩
  · intro ids otherIds keys others same
    have built := heapsOf_built operator ids keys
    have otherBuilt := heapsOf_built operator otherIds others
    have agree := ofHeaps_eq_of_perm (fun side => (built side).2.1)
      (fun side => (otherBuilt side).2.1)
      (fun side => (built side).2.2.trans ((same side).trans (otherBuilt side).2.2.symm))
    obtain ⟨fills, left, stop, sorts⟩ := clear_sortsTo (fun side => (built side).1)
      (fun side => (built side).2.1) budget
    obtain ⟨otherFills, otherLeft, otherStop, otherSorts⟩ :=
      clear_sortsTo (fun side => (otherBuilt side).1) (fun side => (otherBuilt side).2.1) budget
    rw [agree] at fills left stop sorts
    refine ⟨fills.trans otherFills.symm, left.trans otherLeft.symm, stop.trans otherStop.symm, ?_⟩
    intro side
    exact (sorts side).perm.trans (otherSorts side).perm.symm

/-- Three bids and three asks, of which four pairs can match. -/
def threeEach : Sided (List Key) where
  buy := [(Order.mk .buy 1200 1000 ⟨0xa0⟩).key, (Order.mk .buy 1200 1000 ⟨0xa1⟩).key,
    (Order.mk .buy 1400 2000 ⟨0xa1⟩).key]
  sell := [(Order.mk .sell 800 1000000 ⟨0xa2⟩).key, (Order.mk .sell 800 1000000 ⟨0xa3⟩).key,
    (Order.mk .sell 600 900000 ⟨0xa3⟩).key]

/-- The same keys, the best ones first. -/
def threeRotated : Sided (List Key) := threeEach.map fun keys => keys.rotateRight 1

def threeHeaps : Sided KeyHeap := heapsOf ⟨0x3a⟩ ⟨⟨0xb1⟩, ⟨0x51⟩⟩ threeEach

def threeRotatedHeaps : Sided KeyHeap := heapsOf ⟨0x3a⟩ ⟨⟨0xb2⟩, ⟨0x52⟩⟩ threeRotated

/-- The two pairs of heaps store their keys differently and, like the sorted lists, come to the same
three matches. -/
theorem threeHeaps_cleared_alike :
    threeHeaps.buy.keys ≠ threeRotatedHeaps.buy.keys ∧
      (clear threeHeaps ⟨0x3a⟩ ⟨3⟩).fills.length = 3 ∧
      (clear threeHeaps ⟨0x3a⟩ ⟨3⟩).fills = ((SortedBook.ofHeaps threeHeaps).clear ⟨3⟩).fills ∧
      (clear threeHeaps ⟨0x3a⟩ ⟨3⟩).fills = (clear threeRotatedHeaps ⟨0x3a⟩ ⟨3⟩).fills := by
  have built := heapsOf_built ⟨0x3a⟩ ⟨⟨0xb1⟩, ⟨0x51⟩⟩ threeEach
  have same (side : Side) : (threeEach.get side).Perm (threeRotated.get side) := by
    cases side <;> decide +kernel
  refine ⟨by decide +kernel, by decide +kernel, ?_, ?_⟩
  · exact ((clear_refines_sortedBook ⟨0x3a⟩ ⟨3⟩).1 threeHeaps (fun side => (built side).1)
      (fun side => KeyHeap.checkOrder_eq_ok_iff.mpr (built side).2.1)).1
  · exact ((clear_refines_sortedBook ⟨0x3a⟩ ⟨3⟩).2 _ _ threeEach threeRotated same).1

end DoubleAuction
