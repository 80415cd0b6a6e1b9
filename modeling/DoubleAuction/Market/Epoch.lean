/-! # Epochs

A market clears in epochs of equal length, counted from its anchor height. Epoch 0 is the collection
window before the first clearing.
-/

namespace DoubleAuction

/-- The index of an epoch. -/
structure Epoch where
  index : UInt64
  deriving DecidableEq, Repr

namespace Epoch

instance : Inhabited Epoch := ⟨⟨0⟩⟩

/-- The epoch that contains a height. Heights before the anchor belong to epoch 0, and without a
length there is no other epoch. -/
def atHeight (anchor length height : UInt64) : Epoch :=
  if length = 0 ∨ height < anchor then ⟨0⟩ else ⟨(height - anchor) / length⟩

def announce (epoch : Epoch) : String := s!"epoch:{epoch.index}"

/-- The epoch of a height counts the whole lengths since the anchor. -/
theorem toNat_index_atHeight (anchor length height : UInt64) :
    (atHeight anchor length height).index.toNat =
      (height.toNat - anchor.toNat) / length.toNat := by
  unfold atHeight
  split
  case isTrue early =>
    rcases early with rfl | before
    · exact (Nat.div_zero _).symm
    · have none : height.toNat - anchor.toNat = 0 :=
        Nat.sub_eq_zero_of_le (Nat.le_of_lt (UInt64.lt_iff_toNat_lt.mp before))
      rw [none, Nat.zero_div]
      rfl
  case isFalse reached =>
    have reached : anchor ≤ height := UInt64.not_lt.mp (not_or.mp reached).2
    rw [UInt64.toNat_div, UInt64.toNat_sub_of_le _ _ reached]

end Epoch

end DoubleAuction
