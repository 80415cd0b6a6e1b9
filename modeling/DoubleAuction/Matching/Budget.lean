/-! # Match budgets

A clearing call may make a limited number of matches, so that a large book is cleared in several
calls. Each match is charged to the budget before it is made.
-/

namespace DoubleAuction

/-- The number of matches a call may still make. -/
structure Budget where
  remaining : UInt32
  deriving DecidableEq, Repr

namespace Budget

/-- A budget that no book exhausts in practice. -/
def unlimited : Budget := ⟨.ofNat (UInt32.size - 1)⟩

/-- Charges one match, unless the budget is exhausted. -/
def charge? (budget : Budget) : Option Budget :=
  if budget.remaining = 0 then none else some ⟨budget.remaining - 1⟩

def isExhausted (budget : Budget) : Bool := budget.remaining = 0

/-- Charging takes exactly one match. -/
theorem charge?_toNat {budget next : Budget} (charged : budget.charge? = some next) :
    next.remaining.toNat + 1 = budget.remaining.toNat := by
  unfold charge? at charged
  split at charged
  case isTrue => contradiction
  case isFalse positive =>
    cases charged
    have : budget.remaining.toNat ≠ 0 := fun zero => positive (UInt32.toNat_inj.mp zero)
    have : (budget.remaining - 1).toNat = budget.remaining.toNat - 1 := by
      rw [UInt32.toNat_sub_of_le]
      · rfl
      · simp only [UInt32.le_iff_toNat_le, UInt32.reduceToNat]
        omega
    change (budget.remaining - 1).toNat + 1 = _
    omega

theorem lt_of_charge? {budget next : Budget} (charged : budget.charge? = some next) :
    next.remaining.toNat < budget.remaining.toNat := by
  have := charge?_toNat charged
  omega

end Budget

end DoubleAuction
