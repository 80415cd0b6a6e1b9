/-! # Inverting computations that may fail

A computation in several steps succeeds when each of its steps does, and fails with the error of the
first that does not. These lemmas take such a computation apart, so that a proof follows only the
steps it is about.
-/

namespace DoubleAuction

variable {ε : Type u} {α β : Type v}

/-- A sequence succeeds when its first step does and the rest succeeds on what that gives. -/
theorem bind_eq_ok {first : Except ε α} {rest : α → Except ε β} {result : β} :
    first >>= rest = .ok result ↔ ∃ value, first = .ok value ∧ rest value = .ok result := by
  cases first <;> simp [bind, Except.bind]

/-- A sequence fails with its first step, or with the rest after a first step that succeeds. -/
theorem bind_eq_error {first : Except ε α} {rest : α → Except ε β} {error : ε} :
    first >>= rest = .error error ↔
      first = .error error ∨ ∃ value, first = .ok value ∧ rest value = .error error := by
  cases first <;> simp [bind, Except.bind]

/-- A guarded computation succeeds when the guard does not apply and the rest succeeds. -/
theorem guard_eq_ok {condition : Prop} [Decidable condition] {error : ε} {rest : Except ε α}
    {result : α} :
    (if condition then .error error else rest) = .ok result ↔ ¬ condition ∧ rest = .ok result := by
  by_cases applies : condition <;> simp [applies]

/-- A requirement holds when checking it succeeds. -/
theorem require_eq_ok {condition : Prop} [Decidable condition] {error : ε} {value result : α} :
    (if condition then .ok value else .error error) = Except.ok result ↔
      condition ∧ value = result := by
  by_cases holds : condition <;> simp [holds]

end DoubleAuction
