/-! # Sums over lists

Supplies, commitments and payouts are sums of one number for each entry of a list.
-/

namespace DoubleAuction

/-- The sum of the weights of the entries of a list. -/
def sumOver {α : Type u} (weigh : α → Nat) : List α → Nat
  | [] => 0
  | head :: rest => weigh head + sumOver weigh rest

section

variable {α : Type u} {β : Type v} {weigh : α → Nat}

@[simp] theorem sumOver_nil : sumOver weigh [] = 0 := rfl

@[simp] theorem sumOver_cons (head : α) (rest : List α) :
    sumOver weigh (head :: rest) = weigh head + sumOver weigh rest := rfl

theorem sumOver_append (left right : List α) :
    sumOver weigh (left ++ right) = sumOver weigh left + sumOver weigh right := by
  induction left with
  | nil => rw [List.nil_append, sumOver_nil, Nat.zero_add]
  | cons head rest ih =>
    simp only [List.cons_append, sumOver_cons, ih]
    omega

/-- Entries without weight may be left out. -/
theorem sumOver_filter {keep : α → Bool}
    (weightless : ∀ entry, keep entry = false → weigh entry = 0) (entries : List α) :
    sumOver weigh (entries.filter keep) = sumOver weigh entries := by
  induction entries with
  | nil => rfl
  | cons head rest ih =>
    cases kept : keep head with
    | false =>
      rw [List.filter_cons_of_neg (by simp [kept]), sumOver_cons, weightless head kept, ih,
        Nat.zero_add]
    | true => rw [List.filter_cons_of_pos kept, sumOver_cons, sumOver_cons, ih]

theorem sumOver_flatMap (lists : β → List α) (entries : List β) :
    sumOver weigh (entries.flatMap lists) =
      sumOver (fun entry => sumOver weigh (lists entry)) entries := by
  induction entries with
  | nil => rfl
  | cons head rest ih => rw [List.flatMap_cons, sumOver_append, sumOver_cons, ih]

/-- The order of the entries does not matter. -/
theorem sumOver_perm {left right : List α} (perm : left.Perm right) :
    sumOver weigh left = sumOver weigh right := by
  induction perm with
  | nil => rfl
  | cons head _ ih => rw [sumOver_cons, sumOver_cons, ih]
  | swap first second rest =>
    simp only [sumOver_cons]
    omega
  | trans _ _ ihLeft ihRight => exact ihLeft.trans ihRight

theorem sumOver_le {other : α → Nat} (less : ∀ entry, weigh entry ≤ other entry)
    (entries : List α) :
    sumOver weigh entries ≤ sumOver other entries := by
  induction entries with
  | nil => exact Nat.le_refl 0
  | cons head rest ih => exact Nat.add_le_add (less head) ih

theorem sumOver_eq_zero {entries : List α} (weightless : ∀ entry ∈ entries, weigh entry = 0) :
    sumOver weigh entries = 0 := by
  induction entries with
  | nil => rfl
  | cons head rest ih =>
    have first := weightless head List.mem_cons_self
    have later := ih fun entry member => weightless entry (List.mem_cons_of_mem _ member)
    rw [sumOver_cons, first, later]

end

end DoubleAuction
