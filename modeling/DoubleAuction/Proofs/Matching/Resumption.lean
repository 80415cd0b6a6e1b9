import DoubleAuction.Proofs.Matching.MatchPath

/-! # Resuming a clearing

A clearing that runs out of budget leaves the best pair where it was; a later one goes on with it.
Matching with a budget and then with another therefore goes through the matches of both budgets
together and ends as they do (`matchTops_resume`); the larger clearing succeeds exactly if both
smaller ones do (`result_resume`).
-/

namespace DoubleAuction

namespace Budget

@[ext] theorem ext {left right : Budget}
    (same : left.remaining.toNat = right.remaining.toNat) : left = right := by
  cases left
  cases right
  exact congrArg mk (UInt32.toNat_inj.mp same)

theorem charge?_eq_none {budget : Budget} (spent : budget.charge? = none) :
    budget.remaining.toNat = 0 := by
  unfold charge? at spent
  split at spent
  case isTrue zero => exact congrArg UInt32.toNat zero
  case isFalse => cases spent

/-- A budget that is not exhausted can be charged. -/
theorem charge?_of_pos {budget : Budget} (positive : 0 < budget.remaining.toNat) :
    ∃ rest, budget.charge? = some rest := by
  cases charged : budget.charge? with
  | none => exact absurd (charge?_eq_none charged) (Nat.ne_of_gt positive)
  | some rest => exact ⟨rest, rfl⟩

end Budget

theorem Clearing.result_eq_ok_iff {β : Type} {clearing : Clearing β} {fills : List Fill} :
    clearing.result = .ok fills ↔
      (∀ error, clearing.stop ≠ .failed error) ∧ fills = clearing.fills := by
  unfold result
  cases clearing.stop <;> simp [eq_comm]

section Resumption

variable {operator : Address} {heaps : Sided KeyHeap} {budget more whole : Budget}

theorem matchTops_of_error {error : Error} (failed : bestPair heaps = .error error) :
    matchTops operator heaps budget = ⟨[], heaps, budget, .failed error⟩ := by
  rw [matchTops, failed]

theorem matchTops_of_none (done : bestPair heaps = .ok none) :
    matchTops operator heaps budget = ⟨[], heaps, budget, .uncrossed⟩ := by
  rw [matchTops, done]

/-- A pair that the budget lasts for is settled first. -/
theorem matchTops_of_settle {bid ask : Order} {rest : Budget} {fill : Fill}
    (pair : bestPair heaps = .ok (some (bid, ask))) (charged : budget.charge? = some rest)
    (settled : settle bid ask = .ok fill) :
    matchTops operator heaps budget =
      (matchTops operator (replaceTops operator heaps bid ask fill) rest).after fill := by
  rw [matchTops, pair]
  dsimp only
  split
  case h_1 spent =>
    rw [charged] at spent
    cases spent
  case h_2 other alsoCharged =>
    obtain rfl : rest = other := Option.some.inj (charged.symm.trans alsoCharged)
    simp only [settled]

/-- Matching with one budget and then with another is matching with both together. -/
theorem matchTops_resume (operator : Address) (heaps : Sided KeyHeap)
    (together : whole.remaining.toNat = budget.remaining.toNat + more.remaining.toNat) :
    let begun := matchTops operator heaps budget
    let resumed := matchTops operator begun.book more
    (matchTops operator heaps whole).fills = begun.fills ++ resumed.fills ∧
      (matchTops operator heaps whole).book = resumed.book ∧
      (matchTops operator heaps whole).stop = resumed.stop := by
  dsimp only
  fun_induction matchTops operator heaps budget generalizing whole with
  | case1 heaps budget error failed =>
    rw [matchTops_of_error failed, matchTops_of_error failed]
    exact ⟨rfl, rfl, rfl⟩
  | case2 heaps budget done =>
    rw [matchTops_of_none done, matchTops_of_none done]
    exact ⟨rfl, rfl, rfl⟩
  | case3 heaps budget bid ask pair spent =>
    have nothing := Budget.charge?_eq_none spent
    obtain rfl : whole = more := Budget.ext (by omega)
    exact ⟨rfl, rfl, rfl⟩
  | case4 heaps budget bid ask pair rest charged _ error failed =>
    exact absurd failed (settle_ne_error pair)
  | case5 heaps budget bid ask pair rest charged _ fill settled ih =>
    have spent := Budget.charge?_toNat charged
    have positive : 0 < whole.remaining.toNat := by omega
    obtain ⟨wholeRest, wholeCharged⟩ := Budget.charge?_of_pos positive
    have wholeSpent := Budget.charge?_toNat wholeCharged
    have restTogether : wholeRest.remaining.toNat =
        rest.remaining.toNat + more.remaining.toNat := by omega
    obtain ⟨fills, book, stop⟩ := ih restTogether
    rw [matchTops_of_settle pair wholeCharged settled]
    exact ⟨congrArg (fill :: ·) fills, book, stop⟩

/-- What failed before fails again when it is resumed. -/
theorem resume_failed {error : Error}
    (failed : (matchTops operator heaps budget).stop = .failed error) :
    (matchTops operator (matchTops operator heaps budget).book more).stop = .failed error := by
  have stopped := stop_matchTops operator heaps budget
  rw [failed] at stopped
  rw [matchTops_of_error stopped]

/-- The larger clearing succeeds when both smaller ones do, with the fills of both. -/
theorem result_resume
    (together : whole.remaining.toNat = budget.remaining.toNat + more.remaining.toNat)
    {fills : List Fill} :
    let begun := matchTops operator heaps budget
    (matchTops operator heaps whole).result = .ok fills ↔
      ∃ first second, begun.result = .ok first ∧
        (matchTops operator begun.book more).result = .ok second ∧ fills = first ++ second := by
  obtain ⟨joined, _, stop⟩ := matchTops_resume operator heaps together
  dsimp only
  simp only [Clearing.result_eq_ok_iff, joined, stop]
  constructor
  · rintro ⟨unfailed, rfl⟩
    refine ⟨_, _, ⟨?_, rfl⟩, ⟨unfailed, rfl⟩, rfl⟩
    intro error failed
    exact unfailed error (resume_failed failed)
  · rintro ⟨_, _, ⟨_, rfl⟩, ⟨unfailed, rfl⟩, rfl⟩
    exact ⟨unfailed, rfl⟩

end Resumption

end DoubleAuction
