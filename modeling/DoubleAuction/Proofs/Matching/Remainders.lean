import Mathlib.Data.Multiset.AddSub
import DoubleAuction.Proofs.Market.FillPayouts

/-! # What clearing leaves of a book

Whatever the keys of a book and their order, the orders that a clearing leaves are those it found,
less what its fills took of them. For every trader and price the escrow before is the escrow after
together with what the fills of that trader at that price pay and retain, and every key left is one
of the keys before, whole or with less quantity (`LeftOf`). No key before stands behind two keys
left (`Remains`), which one match keeps (`KeyHeap.remains_replaceTop`) and hence any number of them
(`MatchPath.remains`).
-/

namespace DoubleAuction

/-- Picks out the orders of one trader at one price. -/
def only (trader : Address) (price : UInt64) : Address → UInt64 → Bool :=
  fun otherTrader otherPrice => otherTrader = trader ∧ otherPrice = price

/-- An order is another one with some or all of its quantity. -/
structure Order.PartOf (part whole : Order) : Prop where
  trader : part.trader = whole.trader
  price : part.price = whole.price
  positive : part.quantity ≠ 0
  less : part.quantity ≤ whole.quantity

/-- A key is another one, or the key of a part of its order. -/
def LeftOf (side : Side) (original left : Key) : Prop :=
  left = original ∨ (Order.ofKey side left).PartOf (Order.ofKey side original)

namespace LeftOf

variable {side : Side}

theorem refl (key : Key) : LeftOf side key key := .inl rfl

theorem trans {first middle last : Key} (left : LeftOf side first middle)
    (right : LeftOf side middle last) : LeftOf side first last := by
  rcases right with rfl | later
  · exact left
  · rcases left with rfl | earlier
    · exact .inr later
    · exact .inr ⟨later.trader.trans earlier.trader, later.price.trans earlier.price,
        later.positive, UInt64.le_trans later.less earlier.less⟩

instance (side : Side) : IsTrans Key (LeftOf side) := ⟨fun _ _ _ => trans⟩

/-- The key that goes back for an order is left of the key that the order came from. -/
theorem residual {key : Key} {quantity : UInt64} (positive : quantity ≠ 0)
    (less : quantity ≤ (Order.ofKey side key).quantity) :
    LeftOf side key ((Order.ofKey side key).withQuantity quantity).key := by
  right
  rw [Order.ofKey_withQuantity side key less]
  exact ⟨rfl, rfl, positive, less⟩

end LeftOf

/-- Each of the keys left comes from an original key of its own. -/
def Remains (side : Side) (originals left : List Key) : Prop :=
  ∃ kept ≤ (originals : Multiset Key), Multiset.Rel (LeftOf side) kept (left : Multiset Key)

namespace Remains

variable {side : Side}

theorem refl (keys : List Key) : Remains side keys keys :=
  ⟨keys, le_refl _, Multiset.rel_refl_of_refl_on fun key _ => .refl key⟩

theorem trans {first middle last : List Key} (left : Remains side first middle)
    (right : Remains side middle last) : Remains side first last := by
  obtain ⟨kept, held, first⟩ := left
  obtain ⟨keptLater, heldLater, later⟩ := right
  -- The keys that are lost in the middle are taken out of those kept so far.
  obtain ⟨lost, whole⟩ := Multiset.le_iff_exists_add.mp heldLater
  rw [whole] at first
  obtain ⟨origins, others, sources, _, rfl⟩ := Multiset.rel_add_right.mp first
  exact ⟨origins, (Multiset.le_add_right origins others).trans held,
    Multiset.Rel.trans (LeftOf side) sources later⟩

theorem exists_leftOf {originals left : List Key} (remains : Remains side originals left)
    {key : Key} (member : key ∈ left) : ∃ original ∈ originals, LeftOf side original key := by
  obtain ⟨kept, held, sources⟩ := remains
  obtain ⟨original, found, leftOf⟩ :=
    Multiset.exists_mem_of_rel_of_mem (Multiset.rel_flip.mpr sources) (Multiset.mem_coe.mpr member)
  exact ⟨original, Multiset.mem_coe.mp (Multiset.mem_of_le held found), leftOf⟩

end Remains

/-- Replacing the top of a heap loses its key or leaves a part of it. -/
theorem KeyHeap.remains_replaceTop {heap : KeyHeap} {operator : Address}
    (owned : heap.owner = operator) (nonempty : 0 < heap.keys.size) {side : Side} {order : Order}
    (decoded : order = Order.ofKey side heap.top) {residual : UInt64}
    (less : residual ≤ order.quantity) :
    Remains side heap.keys.toList (heap.replaceTop operator order residual).keys.toList := by
  have popped : heap.top ::ₘ ((heap.pop operator).2.keys.toList : Multiset Key) =
      heap.keys.toList := Multiset.coe_eq_coe.mpr (pop_perm owned nonempty)
  simp only [Remains, ← popped, replaceTop]
  have same : Multiset.Rel (LeftOf side) ((heap.pop operator).2.keys.toList : Multiset Key)
      ((heap.pop operator).2.keys.toList) := Multiset.rel_refl_of_refl_on fun key _ => .refl key
  split
  case isTrue => exact ⟨_, Multiset.le_cons_self _ _, same⟩
  case isFalse positive =>
    have pushed := Multiset.coe_eq_coe.mpr (push_perm ((owner_pop heap operator).trans owned)
      (order.withQuantity residual).key)
    subst decoded
    rw [pushed]
    exact ⟨_, le_refl _, .cons (.residual positive less) same⟩

/-- Over any number of matches, each key left comes from an original key of its own. -/
theorem MatchPath.remains {operator : Address} {heaps last : Sided KeyHeap} {fills : List Fill}
    (path : MatchPath operator heaps fills last)
    (owned : ∀ side, (heaps.get side).owner = operator) (side : Side) :
    Remains side (heaps.get side).keys.toList (last.get side).keys.toList := by
  induction path with
  | nil => exact .refl _
  | cons pair settled _ ih =>
    obtain ⟨nonempty, decoded, _⟩ := (bestPair_eq_some pair).1 side
    have less := (settles_of_settle pair settled).2.residual_le side
    have first := KeyHeap.remains_replaceTop (owned side) nonempty decoded less
    have later := ih (owner_replaceTops owned _ _ _)
    rw [get_replaceTops] at later
    exact first.trans later

/-- Clearing loses and invents no escrow, whatever the keys and their order. On each side, for every
trader and price, the fills take exactly what the orders lose; the keys left come from different
keys before, whole or with less quantity; and in sum the fills take exactly what is no longer
committed. -/
theorem clear_conserves {heaps : Sided KeyHeap} {operator : Address} {budget : Budget}
    {fills : List Fill} (ended : (clear heaps operator budget).result = .ok fills) (side : Side) :
    let before := heaps.get side
    let after := (clear heaps operator budget).book.get side
    (∀ trader price, before.escrowOf side (only trader price) =
        after.escrowOf side (only trader price) + spentBy (only trader price) fills side) ∧
      (∀ key ∈ after.keys.toList, ∃ original ∈ before.keys.toList, LeftOf side original key) ∧
      Remains side before.keys.toList after.keys.toList ∧
      before.committed side = after.committed side + owed fills side + retainedBy fills side := by
  have owned := owned_of_clear ended
  have path := path_matchTops operator heaps budget
  rw [clear_of_owned owned] at ended ⊢
  rw [← Clearing.result_eq_ok ended] at path
  have remains := path.remains owned side
  refine ⟨?_, fun key member => remains.exists_leftOf member, remains, ?_⟩
  · intro trader price
    exact (path.escrowOf owned (only trader price) side).symm
  · exact (path.committed owned side).symm

/-- Heaps out of order: a better bid lies below the top, two bids and two asks are alike, and one
bid is a key without quantity. -/
def jumbledHeaps : Sided KeyHeap where
  buy := ⟨⟨0xb1⟩, ⟨0x3a⟩, #[(Order.mk .buy 1400 2000 ⟨0xa1⟩).key,
    (Order.mk .buy 1500 300 ⟨0xa0⟩).key, (Order.mk .buy 1200 0 ⟨0xa4⟩).key,
    (Order.mk .buy 1400 2000 ⟨0xa1⟩).key]⟩
  sell := ⟨⟨0x51⟩, ⟨0x3a⟩, #[(Order.mk .sell 800 1000000 ⟨0xa2⟩).key,
    (Order.mk .sell 900 1300 ⟨0xa3⟩).key, (Order.mk .sell 800 1000000 ⟨0xa2⟩).key,
    (Order.mk .sell 600 900000 ⟨0xa3⟩).key]⟩

/-- In five matches one of the two like bids closes. The other goes back whole, because the last ask
costs it nothing, and the key without quantity stays. -/
theorem jumbledHeaps_conserves :
    let cleared := clear jumbledHeaps ⟨0x3a⟩ ⟨100⟩
    jumbledHeaps.buy.checkOrder = .error (.heapOrderViolated 1) ∧ cleared.fills.length = 5 ∧
      cleared.book.buy.keys = #[(Order.mk .buy 1400 2000 ⟨0xa1⟩).key,
        (Order.mk .buy 1200 0 ⟨0xa4⟩).key] ∧
      4000 = cleared.book.buy.escrowOf .buy (only ⟨0xa1⟩ 1400) +
        spentBy (only ⟨0xa1⟩ 1400) cleared.fills .buy ∧
      jumbledHeaps.sell.committed .sell = owed cleared.fills .sell + 382400 := by
  intro cleared
  have stop : cleared.stop = .uncrossed := by decide +kernel
  have ended : cleared.result = .ok cleared.fills := by rw [Clearing.result, stop]
  have bids := (clear_conserves ended .buy).1 ⟨0xa1⟩ 1400
  have asks := (clear_conserves ended .sell).2.2.2
  have whole : jumbledHeaps.buy.escrowOf .buy (only ⟨0xa1⟩ 1400) = 4000 := by decide +kernel
  have nothing : cleared.book.sell.committed .sell = 0 := by decide +kernel
  have kept : retainedBy cleared.fills .sell = 382400 := by decide +kernel
  refine ⟨by decide +kernel, by decide +kernel, by decide +kernel, whole.symm.trans bids, ?_⟩
  rw [← kept, ← Nat.zero_add (owed cleared.fills .sell), ← nothing]
  exact asks

end DoubleAuction
