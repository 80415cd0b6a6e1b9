import DoubleAuction.Proofs.Matching.Outcomes
import DoubleAuction.Proofs.Matching.Resumption

/-! # How clearing ends

No amount gets smaller with certainty from one match to the next: an order that is paid nothing goes
back whole. What does get smaller is the number of resting orders, because every match closes at
least one of the two (`resting_of_match`). So there is no path of as many matches as orders
(`MatchPath.length_lt_resting`), whatever the keys and the budget. Clearing fails only if the caller
does not own both heaps, or if it meets a top that is no live order (`bestPair_eq_error`).
-/

namespace DoubleAuction

/-- The number of orders that rest on both sides. -/
def resting (heaps : Sided KeyHeap) : Nat := heaps.buy.size + heaps.sell.size

/-- Replacing the top of a heap takes one order away, unless it goes back. -/
theorem KeyHeap.size_replaceTop {heap : KeyHeap} {operator : Address}
    (owned : heap.owner = operator) (nonempty : 0 < heap.keys.size) (order : Order)
    (residual : UInt64) :
    (heap.replaceTop operator order residual).size + 1 =
      heap.size + if residual = 0 then 0 else 1 := by
  have popped := (pop_perm owned nonempty).length_eq
  have pushed := (push_perm ((owner_pop heap operator).trans owned)
    (order.withQuantity residual).key).length_eq
  simp only [List.length_cons, Array.length_toList] at popped pushed
  simp only [replaceTop, size]
  split
  case isTrue => omega
  case isFalse => omega

section Match

variable {operator : Address} {heaps : Sided KeyHeap} {bid ask : Order} {fill : Fill}

/-- A match closes one order or both. -/
theorem resting_replaceTops (owned : ∀ side, (heaps.get side).owner = operator)
    (pair : bestPair heaps = .ok (some (bid, ask))) (settled : settle bid ask = .ok fill) :
    resting (replaceTops operator heaps bid ask fill) + 1 = resting heaps ∨
      resting (replaceTops operator heaps bid ask fill) + 2 = resting heaps := by
  obtain ⟨tops, crossing⟩ := bestPair_eq_some pair
  obtain ⟨someBid, _, live⟩ := tops .buy
  obtain ⟨someAsk, _, _⟩ := tops .sell
  have closes := ((settles_of_settle pair settled).2.classified (of_decide_eq_true crossing)
    (Order.emptyField?_eq_none_iff.mp live).2.1).closes
  have bids := KeyHeap.size_replaceTop (owned .buy) someBid bid fill.bidResidual
  have asks := KeyHeap.size_replaceTop (owned .sell) someAsk ask fill.askResidual
  simp only [Sided.get] at bids asks
  simp only [resting, replaceTops]
  rcases closes with closed | closed
  · rw [if_pos closed] at bids
    split at asks
    case isTrue => omega
    case isFalse => omega
  · rw [if_pos closed] at asks
    split at bids
    case isTrue => omega
    case isFalse => omega

/-- Looking for the best pair fails only at a top that is no live order. -/
theorem bestPair_eq_error {error : Error} (failed : bestPair heaps = .error error) :
    (∀ side, 0 < (heaps.get side).keys.size) ∧
      ∃ side field, (Order.ofKey side (heaps.get side).top).emptyField? = some field ∧
        error = .malformedKey side field (heaps.get side).top := by
  have found : bestPair heaps ≠ .ok none := by
    rw [failed]
    nofun
  have nonempty := nonempty_of_bestPair_ne found
  refine ⟨nonempty, ?_⟩
  rw [bestPair_of_nonempty nonempty, crossing] at failed
  rcases bind_eq_error.mp failed with refused | ⟨bid, _, failed⟩
  · exact ⟨.buy, Order.ofLiveKey_eq_error_iff.mp refused⟩
  · rcases bind_eq_error.mp failed with refused | ⟨ask, _, failed⟩
    · exact ⟨.sell, Order.ofLiveKey_eq_error_iff.mp refused⟩
    · cases failed

end Match

namespace MatchPath

variable {operator : Address} {heaps last : Sided KeyHeap} {fills : List Fill}

theorem owned (path : MatchPath operator heaps fills last)
    (owned : ∀ side, (heaps.get side).owner = operator) (side : Side) :
    (last.get side).owner = operator :=
  (path.frame side).1.trans (owned side)

/-- A path of one match closes one order or both. -/
theorem resting_of_match {fill : Fill} (path : MatchPath operator heaps [fill] last)
    (owned : ∀ side, (heaps.get side).owner = operator) :
    resting last + 1 = resting heaps ∨ resting last + 2 = resting heaps := by
  cases path with
  | cons pair settled rest =>
    cases rest
    exact resting_replaceTops owned pair settled

/-- Each match of a path stands between two books, the later of which has fewer orders. -/
theorem exists_match {before after : List Fill} {fill : Fill}
    (path : MatchPath operator heaps (before ++ fill :: after) last)
    (owned : ∀ side, (heaps.get side).owner = operator) :
    ∃ found left, MatchPath operator heaps before found ∧ MatchPath operator found [fill] left ∧
      MatchPath operator left after last ∧
      (resting left + 1 = resting found ∨ resting left + 2 = resting found) := by
  obtain ⟨found, earlier, rest⟩ := path.split
  have divided : MatchPath operator found ([fill] ++ after) last := rest
  obtain ⟨left, once, later⟩ := divided.split
  exact ⟨found, left, earlier, once, later, once.resting_of_match (earlier.owned owned)⟩

/-- There are fewer matches than orders, unless there is no match. -/
theorem length_lt_resting (path : MatchPath operator heaps fills last)
    (owned : ∀ side, (heaps.get side).owner = operator) :
    fills = [] ∨ fills.length < resting heaps := by
  induction path with
  | nil => exact .inl rfl
  | @cons heaps _ bid ask fill fills pair settled _ ih =>
    right
    have closed := resting_replaceTops owned pair settled
    rcases ih (owner_replaceTops owned _ _ _) with rfl | fewer
    · -- The only match finds an order on either side.
      obtain ⟨tops, _⟩ := bestPair_eq_some pair
      have bids : 0 < heaps.buy.size := (tops .buy).1
      have asks : 0 < heaps.sell.size := (tops .sell).1
      simp only [resting, List.length_cons, List.length_nil]
      omega
    · rw [List.length_cons]
      omega

end MatchPath

section Clear

variable {heaps : Sided KeyHeap} {operator : Address} {budget : Budget}

/-- A heap of somebody else is refused before anything is matched; the bids are looked at first. -/
theorem clear_of_foreign (foreign : ¬ ∀ side, (heaps.get side).owner = operator)
    (budget : Budget) :
    ∃ side, (heaps.get side).owner ≠ operator ∧
      clear heaps operator budget =
        ⟨[], heaps, budget, .failed (.heapNotOwned (heaps.get side).owner operator)⟩ := by
  by_cases buy : heaps.buy.owner = operator
  · have sell : heaps.sell.owner ≠ operator := by
      intro sell
      apply foreign
      intro side
      cases side with
      | buy => exact buy
      | sell => exact sell
    refine ⟨.sell, sell, ?_⟩
    simp only [clear, buy, sell, ne_eq, not_true_eq_false, not_false_eq_true, ↓reduceIte, Sided.get]
  · refine ⟨.buy, buy, ?_⟩
    simp only [clear, buy, ne_eq, not_false_eq_true, ↓reduceIte, Sided.get]

/-- For the owner of both heaps clearing fails only at a top that is no live order. -/
theorem malformed_of_clear (owned : ∀ side, (heaps.get side).owner = operator) {error : Error}
    (failed : (clear heaps operator budget).result = .error error) :
    ∃ side field,
      error = .malformedKey side field ((clear heaps operator budget).book.get side).top ∧
      0 < ((clear heaps operator budget).book.get side).size ∧
      (Order.ofKey side ((clear heaps operator budget).book.get side).top).emptyField? =
        some field := by
  have why := stop_matchTops operator heaps budget
  rw [clear_of_owned owned] at failed ⊢
  unfold Clearing.result at failed
  split at failed
  case h_1 stop =>
    cases failed
    rw [stop] at why
    obtain ⟨nonempty, side, field, missing, same⟩ := bestPair_eq_error why
    exact ⟨side, field, same, nonempty side, missing⟩
  case h_2 => cases failed
  case h_3 => cases failed

end Clear

/-- Clearing ends on any heaps, and in three ways only. Who does not own both heaps is refused and
changes nothing. The owner is stopped only by a top that is no live order, left where it was found.
Every match is charged to the budget and closes one order or both, so there are fewer matches than
orders, and no budget makes a longer path. -/
theorem clear_ends (heaps : Sided KeyHeap) (operator : Address) (budget : Budget) :
    let cleared := clear heaps operator budget
    ((∃ owner market, cleared.result = .error (.heapNotOwned owner market)) ↔
        ¬ ∀ side, (heaps.get side).owner = operator) ∧
      ((¬ ∀ side, (heaps.get side).owner = operator) →
        ∃ side, (heaps.get side).owner ≠ operator ∧ cleared =
          ⟨[], heaps, budget, .failed (.heapNotOwned (heaps.get side).owner operator)⟩) ∧
      ((∀ side, (heaps.get side).owner = operator) →
        ∀ error, cleared.result = .error error → ∃ side field,
          error = .malformedKey side field (cleared.book.get side).top ∧
          0 < (cleared.book.get side).size ∧
          (Order.ofKey side (cleared.book.get side).top).emptyField? = some field) ∧
      cleared.fills.length + cleared.budget.remaining.toNat = budget.remaining.toNat ∧
      ((∀ side, 0 < (heaps.get side).size) → cleared.fills.length ≤ resting heaps - 1) ∧
      (∀ before fill after, cleared.fills = before ++ fill :: after → ∃ found left,
        MatchPath operator heaps before found ∧ MatchPath operator found [fill] left ∧
          MatchPath operator left after cleared.book ∧
          (resting left + 1 = resting found ∨ resting left + 2 = resting found)) ∧
      ((∀ side, (heaps.get side).owner = operator) → ∀ fills last,
        MatchPath operator heaps fills last → fills.length ≤ resting heaps - 1) := by
  intro cleared
  have fewer (owned : ∀ side, (heaps.get side).owner = operator) {fills : List Fill}
      {last : Sided KeyHeap} (path : MatchPath operator heaps fills last) :
      fills.length ≤ resting heaps - 1 := by
    rcases path.length_lt_resting owned with rfl | less
    · exact Nat.zero_le _
    · omega
  by_cases owned : ∀ side, (heaps.get side).owner = operator
  · have matched : cleared = matchTops operator heaps budget := clear_of_owned owned budget
    have path := path_matchTops operator heaps budget
    have spent := length_matchTops operator heaps budget
    rw [← matched] at path spent
    have stopped (error : Error) (failed : cleared.result = .error error) :=
      malformed_of_clear owned failed
    refine ⟨⟨?_, fun foreign => absurd owned foreign⟩, fun foreign => absurd owned foreign,
      fun _ => stopped, spent, fun _ => fewer owned path, ?_, fun _ _ _ => fewer owned⟩
    · rintro ⟨owner, market, refused⟩
      obtain ⟨_, _, malformed, _⟩ := stopped _ refused
      cases malformed
    · intro before fill after same
      rw [same] at path
      exact path.exists_match owned
  · obtain ⟨side, foreign, refused⟩ := clear_of_foreign owned budget
    simp only [cleared, refused]
    refine ⟨⟨fun _ => owned, fun _ => ⟨_, _, rfl⟩⟩, fun _ => ⟨side, foreign, rfl⟩,
      fun owns => absurd owns owned, Nat.zero_add _, fun _ => Nat.zero_le _, ?_,
      fun owns => absurd owns owned⟩
    intro before fill after same
    exact absurd same.symm (List.append_ne_nil_of_right_ne_nil _ (List.cons_ne_nil _ _))

/-- A bid that is paid nothing for a small ask, above a key without a trader. -/
def stalledHeaps : Sided KeyHeap where
  buy := ⟨⟨0xb1⟩, ⟨0x3a⟩,
    #[(Order.mk .buy 1400 700 ⟨0xa1⟩).key, (Order.mk .buy 1200 900 .zero).key]⟩
  sell := ⟨⟨0x51⟩, ⟨0x3a⟩,
    #[(Order.mk .sell 700 1000 ⟨0xa2⟩).key, (Order.mk .sell 800 1000000 ⟨0xa3⟩).key]⟩

/-- The bid goes back whole from its first match and closes in the second, where the ask keeps
resting. Then the key without a trader stops the clearing, although the budget is as good as
unlimited. -/
theorem stalledHeaps_ends :
    let cleared := clear stalledHeaps ⟨0x3a⟩ .unlimited
    (cleared.fills.map fun fill => (fill.bidResidual, fill.askResidual)) =
        [(700, 0), (0, 440000)] ∧
      cleared.fills.length ≤ resting stalledHeaps - 1 ∧
      ∃ side field, cleared.result = .error (.malformedKey side field (cleared.book.get side).top) ∧
        (Order.ofKey side (cleared.book.get side).top).emptyField? = some field := by
  intro cleared
  have owned (side : Side) : (stalledHeaps.get side).owner = ⟨0x3a⟩ := by cases side <;> rfl
  obtain ⟨_, _, stopped, _, fewer, _⟩ := clear_ends stalledHeaps ⟨0x3a⟩ .unlimited
  have stop : cleared.stop =
      .failed (.malformedKey .buy .trader (Order.mk .buy 1200 900 .zero).key) := by
    decide +kernel
  have failed : cleared.result =
      .error (.malformedKey .buy .trader (Order.mk .buy 1200 900 .zero).key) := by
    rw [Clearing.result, stop]
  obtain ⟨side, field, same, _, missing⟩ := stopped owned _ failed
  refine ⟨by decide +kernel, fewer ?_, side, field, failed.trans (congrArg _ same), missing⟩
  intro side
  cases side <;> decide

end DoubleAuction
