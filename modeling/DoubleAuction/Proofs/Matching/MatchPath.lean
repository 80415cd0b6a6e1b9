import DoubleAuction.Proofs.Book.Contents
import DoubleAuction.Proofs.Except
import DoubleAuction.Proofs.Matching.Settlement

/-! # Matches and the paths they make

A best pair consists of the live orders at the tops of both heaps, and it always settles
(`bestPair_eq_some`, `settle_bestPair`). What a clearing does is therefore a path: matches that each
settle the best pair of the book they find and leave a book to the next one (`MatchPath`,
`path_matchTops`). The path ends where no pair crosses, where the budget ends, or at a key that is
no live order (`stop_matchTops`), and every match costs one unit of the budget
(`length_matchTops`).
-/

namespace DoubleAuction

section Pair

variable {heaps : Sided KeyHeap} {bid ask : Order}

theorem bestPair_of_nonempty (nonempty : ∀ side, 0 < (heaps.get side).keys.size) :
    bestPair heaps = crossing heaps.buy.top heaps.sell.top := by
  have bids : heaps.buy.isEmpty = false := KeyHeap.isEmpty_eq_false_iff.mpr (nonempty .buy)
  have asks : heaps.sell.isEmpty = false := KeyHeap.isEmpty_eq_false_iff.mpr (nonempty .sell)
  simp only [bestPair, bids, asks, Bool.or_self, Bool.false_eq_true, ↓reduceIte]

theorem bestPair_of_empty (side : Side) (empty : (heaps.get side).keys.size = 0) :
    bestPair heaps = .ok none := by
  have nothing : (heaps.get side).isEmpty = true := by
    rw [← Bool.not_eq_false, KeyHeap.isEmpty_eq_false_iff]
    omega
  cases side with
  | buy =>
    have bids : heaps.buy.isEmpty = true := nothing
    simp only [bestPair, bids, Bool.true_or, ↓reduceIte]
  | sell =>
    have asks : heaps.sell.isEmpty = true := nothing
    simp only [bestPair, asks, Bool.or_true, ↓reduceIte]

/-- Only between two heaps that are not empty can a pair be found, or the search fail. -/
theorem nonempty_of_bestPair_ne (found : bestPair heaps ≠ .ok none) (side : Side) :
    0 < (heaps.get side).keys.size := by
  apply Nat.pos_of_ne_zero
  intro empty
  exact found (bestPair_of_empty side empty)

theorem crossing_eq_ok_iff {bidKey askKey : Key} {pair : Option (Order × Order)} :
    crossing bidKey askKey = .ok pair ↔
      (Order.ofKey .buy bidKey).emptyField? = none ∧
        (Order.ofKey .sell askKey).emptyField? = none ∧
        pair = if crosses (.ofKey .buy bidKey) (.ofKey .sell askKey) then
          some (.ofKey .buy bidKey, .ofKey .sell askKey) else none := by
  constructor
  · intro found
    obtain ⟨bid, liveBid, found⟩ := bind_eq_ok.mp found
    obtain ⟨ask, liveAsk, found⟩ := bind_eq_ok.mp found
    obtain ⟨bidLive, rfl⟩ := Order.ofLiveKey_eq_ok_iff.mp liveBid
    obtain ⟨askLive, rfl⟩ := Order.ofLiveKey_eq_ok_iff.mp liveAsk
    exact ⟨bidLive, askLive, (Except.ok.inj found).symm⟩
  · rintro ⟨bidLive, askLive, rfl⟩
    refine bind_eq_ok.mpr ⟨_, Order.ofLiveKey_eq_ok_iff.mpr ⟨bidLive, rfl⟩, ?_⟩
    exact bind_eq_ok.mpr ⟨_, Order.ofLiveKey_eq_ok_iff.mpr ⟨askLive, rfl⟩, rfl⟩

/-- A best pair consists of the live orders at the tops, and they cross. -/
theorem bestPair_eq_some (pair : bestPair heaps = .ok (some (bid, ask))) :
    (∀ side, 0 < (heaps.get side).keys.size ∧
      (Sided.mk bid ask).get side = Order.ofKey side (heaps.get side).top ∧
      ((Sided.mk bid ask).get side).emptyField? = none) ∧ crosses bid ask = true := by
  have found : bestPair heaps ≠ .ok none := by
    rw [pair]
    nofun
  have nonempty := nonempty_of_bestPair_ne found
  rw [bestPair_of_nonempty nonempty] at pair
  obtain ⟨bidLive, askLive, chosen⟩ := crossing_eq_ok_iff.mp pair
  split at chosen
  case isFalse => cases chosen
  case isTrue crossing =>
    cases chosen
    refine ⟨?_, crossing⟩
    intro side
    cases side with
    | buy => exact ⟨nonempty .buy, rfl, bidLive⟩
    | sell => exact ⟨nonempty .sell, rfl, askLive⟩

/-- The best pair always settles. -/
theorem settle_bestPair (pair : bestPair heaps = .ok (some (bid, ask))) :
    ∃ fill, settle bid ask = .ok fill ∧ fill.Names bid ask ∧ Settles bid ask fill := by
  obtain ⟨tops, crossing⟩ := bestPair_eq_some pair
  obtain ⟨_, _, live⟩ := tops .buy
  exact settle_ok crossing (Order.emptyField?_eq_none_iff.mp live).2.1

/-- Whatever the best pair settles to is a settlement of it. -/
theorem settles_of_settle {fill : Fill} (pair : bestPair heaps = .ok (some (bid, ask)))
    (settled : settle bid ask = .ok fill) : fill.Names bid ask ∧ Settles bid ask fill := by
  obtain ⟨other, same, names, settles⟩ := settle_bestPair pair
  obtain rfl : fill = other := Except.ok.inj (settled.symm.trans same)
  exact ⟨names, settles⟩

theorem settle_ne_error {error : Error} (pair : bestPair heaps = .ok (some (bid, ask))) :
    settle bid ask ≠ .error error := by
  obtain ⟨fill, settled, _⟩ := settle_bestPair pair
  rw [settled]
  nofun

/-- When every resting order is live, looking for the best pair does not fail. -/
theorem bestPair_of_live
    (live : ∀ side, (heaps.get side).Rests side fun order => order.emptyField? = none) :
    ∃ pair, bestPair heaps = .ok pair := by
  by_cases nonempty : ∀ side, 0 < (heaps.get side).keys.size
  · rw [bestPair_of_nonempty nonempty]
    have bid := (live .buy).top (nonempty .buy)
    have ask := (live .sell).top (nonempty .sell)
    exact ⟨_, crossing_eq_ok_iff.mpr ⟨bid, ask, rfl⟩⟩
  · obtain ⟨side, empty⟩ := Classical.not_forall.mp nonempty
    exact ⟨none, bestPair_of_empty side (Nat.eq_zero_of_not_pos empty)⟩

theorem get_replaceTops (operator : Address) (heaps : Sided KeyHeap) (bid ask : Order) (fill : Fill)
    (side : Side) :
    (replaceTops operator heaps bid ask fill).get side =
      (heaps.get side).replaceTop operator ((Sided.mk bid ask).get side) (fill.residual side) := by
  cases side <;> rfl

/-- A match leaves both heaps with their owner. -/
theorem owner_replaceTops {operator : Address} (owned : ∀ side, (heaps.get side).owner = operator)
    (bid ask : Order) (fill : Fill) (side : Side) :
    ((replaceTops operator heaps bid ask fill).get side).owner = operator := by
  rw [get_replaceTops, KeyHeap.owner_replaceTop, owned]

theorem Fill.Names.trader {fill : Fill} (names : fill.Names bid ask) (side : Side) :
    fill.trader side = ((Sided.mk bid ask).get side).trader := by
  cases side with
  | buy => exact names.buyer
  | sell => exact names.seller

theorem Fill.Names.price {fill : Fill} (names : fill.Names bid ask) (side : Side) :
    fill.price side = ((Sided.mk bid ask).get side).price := by
  cases side with
  | buy => exact names.bidPrice
  | sell => exact names.askPrice

theorem Settles.residual_le {fill : Fill} (settles : Settles bid ask fill) (side : Side) :
    fill.residual side ≤ ((Sided.mk bid ask).get side).quantity := by
  have parts := settles.conserves side
  rw [UInt64.le_iff_toNat_le]
  omega

end Pair

/-- Matches that lead from one book to another: each settles the best pair of the book that it finds
and leaves the book that the next one finds. -/
inductive MatchPath (operator : Address) : Sided KeyHeap → List Fill → Sided KeyHeap → Prop
  | nil (heaps : Sided KeyHeap) : MatchPath operator heaps [] heaps
  | cons {heaps last : Sided KeyHeap} {bid ask : Order} {fill : Fill} {fills : List Fill}
      (pair : bestPair heaps = .ok (some (bid, ask))) (settled : settle bid ask = .ok fill)
      (rest : MatchPath operator (replaceTops operator heaps bid ask fill) fills last) :
      MatchPath operator heaps (fill :: fills) last

namespace MatchPath

variable {operator : Address} {heaps last : Sided KeyHeap} {fills before after : List Fill}

/-- Matches change neither owners nor names. -/
theorem frame (path : MatchPath operator heaps fills last) (side : Side) :
    (last.get side).owner = (heaps.get side).owner ∧ (last.get side).id = (heaps.get side).id := by
  induction path with
  | nil => exact ⟨rfl, rfl⟩
  | cons _ _ _ ih =>
    rw [get_replaceTops, KeyHeap.owner_replaceTop, KeyHeap.id_replaceTop] at ih
    exact ih

/-- Between any two matches there is a book, at which the path divides. -/
theorem split (path : MatchPath operator heaps (before ++ after) last) :
    ∃ middle, MatchPath operator heaps before middle ∧ MatchPath operator middle after last := by
  induction before generalizing heaps with
  | nil => exact ⟨heaps, .nil heaps, path⟩
  | cons fill rest ih =>
    cases path with
    | cons pair settled tail =>
      obtain ⟨middle, left, right⟩ := ih tail
      exact ⟨middle, .cons pair settled left, right⟩

end MatchPath

section Loop

variable {operator : Address} {heaps : Sided KeyHeap} {budget : Budget}

/-- Matching goes along a path. -/
theorem path_matchTops (operator : Address) (heaps : Sided KeyHeap) (budget : Budget) :
    MatchPath operator heaps (matchTops operator heaps budget).fills
      (matchTops operator heaps budget).book := by
  fun_induction matchTops operator heaps budget with
  | case1 heaps | case2 heaps | case3 heaps | case4 heaps => exact .nil heaps
  | case5 heaps budget bid ask pair rest charged _ fill settled ih => exact .cons pair settled ih

/-- Every match costs one unit of the budget. -/
theorem length_matchTops (operator : Address) (heaps : Sided KeyHeap) (budget : Budget) :
    (matchTops operator heaps budget).fills.length +
        (matchTops operator heaps budget).budget.remaining.toNat = budget.remaining.toNat := by
  fun_induction matchTops operator heaps budget with
  | case1 | case2 | case3 => exact Nat.zero_add _
  | case4 heaps budget bid ask pair rest charged _ error failed =>
    exact absurd failed (settle_ne_error pair)
  | case5 heaps budget bid ask pair rest charged _ fill settled ih =>
    have spent := Budget.charge?_toNat charged
    simp only [Clearing.after, List.length_cons]
    omega

/-- Why matching ended, as the book and the budget that it left show it. -/
theorem stop_matchTops (operator : Address) (heaps : Sided KeyHeap) (budget : Budget) :
    match (matchTops operator heaps budget).stop with
    | .uncrossed => bestPair (matchTops operator heaps budget).book = .ok none
    | .outOfBudget =>
      (∃ pair, bestPair (matchTops operator heaps budget).book = .ok (some pair)) ∧
        (matchTops operator heaps budget).budget.isExhausted = true
    | .failed error => bestPair (matchTops operator heaps budget).book = .error error := by
  fun_induction matchTops operator heaps budget with
  | case1 heaps budget error failed => exact failed
  | case2 heaps budget done => exact done
  | case3 heaps budget bid ask pair spent =>
    refine ⟨⟨_, pair⟩, ?_⟩
    unfold Budget.charge? at spent
    split at spent
    case isTrue zero => simpa [Budget.isExhausted] using zero
    case isFalse => cases spent
  | case4 heaps budget bid ask pair rest charged _ error failed =>
    exact absurd failed (settle_ne_error pair)
  | case5 heaps budget bid ask pair rest charged _ fill settled ih => exact ih

end Loop

namespace Clearing

theorem result_eq_ok {β : Type} {clearing : Clearing β} {fills : List Fill}
    (ended : clearing.result = .ok fills) : fills = clearing.fills := by
  unfold result at ended
  split at ended
  · cases ended
  · exact (Except.ok.inj ended).symm
  · exact (Except.ok.inj ended).symm

end Clearing

section Clear

variable {heaps : Sided KeyHeap} {operator : Address} {budget : Budget}

theorem clear_of_owned (owned : ∀ side, (heaps.get side).owner = operator) (budget : Budget) :
    clear heaps operator budget = matchTops operator heaps budget := by
  have buy : heaps.buy.owner = operator := owned .buy
  have sell : heaps.sell.owner = operator := owned .sell
  simp only [clear, buy, sell, ne_eq, not_true_eq_false, ↓reduceIte]

/-- A clearing that does not fail was asked for by the owner of both heaps. -/
theorem owned_of_clear {fills : List Fill}
    (ended : (clear heaps operator budget).result = .ok fills) (side : Side) :
    (heaps.get side).owner = operator := by
  unfold clear at ended
  split at ended
  case isTrue => cases ended
  case isFalse buy =>
    split at ended
    case isTrue => cases ended
    case isFalse sell =>
      cases side with
      | buy => exact Decidable.not_not.mp buy
      | sell => exact Decidable.not_not.mp sell

end Clear

end DoubleAuction
