import DoubleAuction.Proofs.Address.Map
import DoubleAuction.Proofs.Address.Text
import DoubleAuction.Proofs.Json.Records
import DoubleAuction.Stored

/-! # Stored values read back

A value is read back from its stored form, whatever the order in which the members of objects are
written (`Lossless`). Here are the values that records are made of: numbers, addresses, words,
lists, maps and absent values.
-/

namespace DoubleAuction.Stored

open Json (Rearranged)

/-- Every value is read back from its stored form, in whatever order its members stand. -/
class Lossless (α : Type) [Stored α] : Prop where
  reads {value : α} {json : Json} (rearranged : (toJson value).Rearranged json) :
    ofJson? json = some value

instance : Lossless Bool where
  reads rearranged := by
    cases rearranged
    rfl

/-- A number below a limit is read back. -/
theorem natural?_of_rearranged {limit n : Nat} (below : n < limit) {json : Json}
    (rearranged : (Json.number (some n)).Rearranged json) : natural? limit json = some n := by
  cases rearranged
  simp [natural?, Json.natural?, below]

instance : Lossless UInt8 where
  reads {value _} rearranged := by
    simp [ofJson?, natural?_of_rearranged value.toNat_lt rearranged]

instance : Lossless UInt32 where
  reads {value _} rearranged := by
    simp [ofJson?, natural?_of_rearranged value.toNat_lt rearranged]

instance : Lossless UInt64 where
  reads {value _} rearranged := by
    simp [ofJson?, natural?_of_rearranged value.toNat_lt rearranged]

instance : Lossless Amount where
  reads {value _} rearranged := by
    simp [ofJson?, natural?_of_rearranged value.isLt rearranged]

instance : Lossless Address where
  reads {address _} rearranged := by
    cases rearranged
    simp [ofJson?, Json.text?, Address.parse_render, Except.toOption]

instance : Lossless Word where
  reads {word _} rearranged := by
    cases rearranged
    have digits := Hex.read?_toDigits word.toNat
    have plain : Hex.readSpaced? (Nat.toDigits 16 word.toNat) = some word.toNat := by
      rw [Hex.readSpaced?_eq_read?, digits]
      exact fun c member => Hex.isBlank_of_value? (Hex.value?_of_read? digits member)
    have short : (Nat.toDigits 16 word.toNat).length ≤ 64 :=
      (Nat.length_toDigits_le_iff (by decide) (by decide)).mpr word.isLt
    have marked : Address.dropMarker ("0x" ++ Hex.shortest word.toNat).toList =
        Nat.toDigits 16 word.toNat := by
      simp only [String.toList_append, Hex.shortest, String.toList_ofList]
      rfl
    simp only [ofJson?, Json.text?, Option.bind_some, marked]
    rw [if_pos ⟨List.length_pos_iff.mpr Nat.toDigits_ne_nil, short⟩, plain]
    simp

instance {α : Type} [Stored α] [Lossless α] : Lossless (List α) where
  reads {values _} rearranged := by
    cases rearranged with
    | array alike =>
      have read := alike.flip
      rw [List.forall₂_map_right_iff] at read
      have values := Json.mapM_eq_some_iff.mpr (read.imp fun _ _ same => Lossless.reads same)
      simp only [ofJson?, Json.items?, Option.bind_some, values]

instance {α : Type} [Stored α] [Lossless α] : Lossless (AddressMap α) where
  reads {map json} rearranged := by
    obtain ⟨others, moved, members, perm, alike⟩ := Json.members?_of_rearranged rearranged
    have entries : others.mapM (fun member => do
        return (← (Address.parse member.1).toOption, ← ofJson? member.2)) = some map.entries := by
      rw [Json.mapM_eq_some_iff]
      refine (List.forall₂_map_left_iff.mp alike).flip.imp ?_
      rintro ⟨name, value⟩ entry ⟨rfl, rearranged⟩
      simp [Address.parse_render, Except.toOption, Lossless.reads rearranged]
    obtain ⟨entries, read, perm⟩ := Json.mapM_of_perm perm entries
    simp only [ofJson?, members, bind, Option.bind_some, pure] at read ⊢
    rw [read, Option.bind_some, AddressMap.ofList_of_perm perm]

/-- A field that is there is read. -/
theorem required?_of_rearranged {α : Type} [Stored α] [Lossless α] {value : α} {json : Json}
    (rearranged : (toJson value).Rearranged json) : required? (some json) = some value :=
  Lossless.reads rearranged

/-- A field with a default is read when it is there. -/
theorem withDefault?_of_rearranged {α : Type} [Stored α] [Lossless α] {value : α} {json : Json}
    (default : α) (rearranged : (toJson value).Rearranged json) :
    withDefault? default (some json) = some value :=
  Lossless.reads rearranged

/-- A value that may be absent is read, if no value is stored as `null`. -/
theorem optional?_of_rearranged {α : Type} [Stored α] [Lossless α]
    (present : (ofJson? .null : Option α) = none) {value : Option α} {json : Json}
    (rearranged : (ofOption value).Rearranged json) : optional? (some json) = some value := by
  cases value with
  | none =>
    cases rearranged
    rfl
  | some value =>
    have read := Lossless.reads rearranged
    unfold optional?
    split
    case h_1 same => cases same
    case h_2 same =>
      cases same
      cases present.symm.trans read
    case h_3 same =>
      cases same
      rw [read, Option.map_some]

end DoubleAuction.Stored
