import DoubleAuction.Matching.FillRoot
import DoubleAuction.Proofs.Bytes

/-! # What a fill root commits to

The byte string behind a fill root can be read in one way only: no two lists of fills have the same
one, nor has a list of fills in two epochs (`FillRoot.preimage_eq_iff`). Nothing stands between the
fields, but every field has a fixed width, so that each can be cut off in turn. A root therefore
belongs to one epoch and one list of fills, unless two byte strings have the same hash
(`FillRoot.root_commits`).
-/

namespace DoubleAuction

/-- Entries of a fixed length, written back to back, can be told apart. -/
theorem flatMap_injective {α : Type u} {β : Type v} {encode : α → List β} {width : Nat}
    (positive : 0 < width) (length : ∀ entry, (encode entry).length = width)
    (injective : Function.Injective encode) :
    Function.Injective fun entries : List α => entries.flatMap encode := by
  have nonempty (entry : α) (entries : List α) : [] ≠ (entry :: entries).flatMap encode := by
    intro same
    have lengths := congrArg List.length same
    rw [List.flatMap_cons, List.length_append, length, List.length_nil] at lengths
    omega
  intro left right same
  dsimp only at same
  induction left generalizing right with
  | nil =>
    cases right with
    | nil => rfl
    | cons other others => exact absurd same (nonempty other others)
  | cons entry entries ih =>
    cases right with
    | nil => exact absurd same.symm (nonempty entry entries)
    | cons other others =>
      rw [List.flatMap_cons, List.flatMap_cons] at same
      obtain ⟨first, later⟩ := List.append_inj same ((length entry).trans (length other).symm)
      rw [injective first, ih later]

namespace FillRoot

open Bytes

theorem outcomeByte_injective : Function.Injective outcomeByte := by
  intro outcome other same
  cases outcome <;> cases other <;> simp_all [outcomeByte]

theorem length_fillBytes (fill : Fill) : (fillBytes fill).length = 105 := by
  simp [fillBytes, amounts]

/-- The bytes of a fill determine each of its fields. -/
theorem fillBytes_injective : Function.Injective fillBytes := by
  intro fill other same
  obtain ⟨front, back⟩ := List.append_inj same (by simp)
  obtain ⟨head, seller⟩ := List.append_inj front (by simp)
  obtain ⟨outcome, buyer⟩ := List.cons.inj head
  have outcome := outcomeByte_injective outcome
  have buyer := Address.bytes_injective buyer
  have seller := Address.bytes_injective seller
  have amounts := flatMap_injective (by decide) (fun _ => length_littleEndian 8 _)
    littleEndian_toNat_injective back
  cases fill
  cases other
  simp only [FillRoot.amounts, List.cons.injEq] at outcome buyer seller amounts
  simp only [outcome, buyer, seller, amounts]

/-- The byte string behind a root determines the epoch and the fills, however many they are. -/
theorem preimage_eq_iff {epoch other : Epoch} {fills others : List Fill} :
    preimage epoch fills = preimage other others ↔ epoch = other ∧ fills = others := by
  constructor
  · intro same
    obtain ⟨front, back⟩ := List.append_inj same (by simp)
    obtain ⟨head, _⟩ := List.append_inj front (by simp)
    have index := littleEndian_toNat_injective (List.append_cancel_left head)
    exact ⟨congrArg Epoch.mk index,
      flatMap_injective (by decide) length_fillBytes fillBytes_injective back⟩
  · rintro ⟨rfl, rfl⟩
    rfl

/-- The byte string behind a root belongs to one epoch and one list of fills. A root is accepted for
others only if their byte string is another one with the same hash. -/
theorem root_commits (epoch other : Epoch) (fills others : List Fill) :
    (preimage epoch fills = preimage other others ↔ epoch = other ∧ fills = others) ∧
      (verify epoch fills (compute other others) = true ↔
        epoch = other ∧ fills = others ∨
          preimage epoch fills ≠ preimage other others ∧
            Hash.sha256 (preimage epoch fills) = Hash.sha256 (preimage other others)) := by
  refine ⟨preimage_eq_iff, ?_⟩
  rw [← preimage_eq_iff, verify, decide_eq_true_eq, compute, compute]
  by_cases same : preimage epoch fills = preimage other others
  · simp only [same, ne_eq, not_true_eq_false, false_and, or_false]
  · simp only [same, ne_eq, not_false_eq_true, true_and, false_or]

end FillRoot

end DoubleAuction
