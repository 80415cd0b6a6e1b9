import DoubleAuction.Address.Parse
import DoubleAuction.Proofs.Bytes

/-! # Addresses read back

An address is read back from its written form (`Address.parse_render`). Its digits are read as
bytes, and a digit is one byte.
-/

namespace DoubleAuction.Address

theorem toNat_lt_of_value? {c : Char} {value : Nat} (digit : Hex.value? c = some value) :
    c.toNat < 128 := by
  have bound (last : Char) (ascii : last.toNat < 128) (le : c ≤ last) : c.toNat < 128 :=
    Nat.lt_of_le_of_lt le ascii
  unfold Hex.value? at digit
  split at digit
  case isTrue decimal => exact bound '9' (by decide) decimal.2
  case isFalse =>
    split at digit
    case isTrue lower => exact bound 'f' (by decide) lower.2
    case isFalse =>
      split at digit
      case isTrue upper => exact bound 'F' (by decide) upper.2
      case isFalse => cases digit

theorem toNat_byte {c : Char} (ascii : c.toNat < 128) : (UInt8.ofNat c.toNat).toNat = c.toNat := by
  rw [UInt8.toNat_ofNat', Nat.mod_eq_of_lt (by omega)]

/-- A character of ASCII is the one byte of its code. -/
theorem utf8EncodeChar_of_lt {c : Char} (ascii : c.toNat < 128) :
    String.utf8EncodeChar c = [.ofNat c.toNat] := by
  have single : c.val.toNat ≤ 127 := Nat.le_of_lt_succ ascii
  simp only [String.utf8EncodeChar, if_pos single]
  rfl

/-- A digit is the one byte of its code. -/
theorem utf8EncodeChar_of_value? {c : Char} {value : Nat} (digit : Hex.value? c = some value) :
    String.utf8EncodeChar c = [.ofNat c.toNat] ∧ digitOf? (.ofNat c.toNat) = some value := by
  have ascii := toNat_lt_of_value? digit
  refine ⟨utf8EncodeChar_of_lt ascii, ?_⟩
  rw [digitOf?, toNat_byte ascii, Char.ofNat_toNat, digit]

/-- Digits are read alike as characters and as bytes. -/
theorem readDigits_bytesOf {text : List Char} {read value : Nat}
    (reads : Hex.readFrom? read text = some value) (index : Nat) :
    readDigits index read (bytesOf text) = .ok value ∧ (bytesOf text).length = text.length := by
  induction text generalizing index read with
  | nil =>
    cases reads
    exact ⟨rfl, rfl⟩
  | cons c rest ih =>
    obtain ⟨digit, here, later⟩ := Option.bind_eq_some_iff.mp reads
    obtain ⟨encoded, same⟩ := utf8EncodeChar_of_value? here
    obtain ⟨readRest, length⟩ := ih later (index + 1)
    have bytes : bytesOf (c :: rest) = .ofNat c.toNat :: bytesOf rest := by
      rw [bytesOf, List.flatMap_cons, encoded]
      rfl
    constructor
    · rw [bytes, readDigits, same]
      exact readRest
    · rw [bytes, List.length_cons, List.length_cons, length]

/-- An address is read back from its written form. -/
theorem parse_render (address : Address) : parse address.render = .ok address := by
  have reads : Hex.read? address.digits = some address.word.toNat := by
    have fits : address.word.toNat < 16 ^ 40 := address.word.isLt
    rw [digits, Hex.read?_digits, Nat.mod_eq_of_lt fits]
  obtain ⟨value, length⟩ := readDigits_bytesOf reads 0
  have forty : (bytesOf address.digits).length = 40 := by
    rw [length, digits, Hex.length_digits]
  have marked : dropMarker address.render.toList = address.digits := by
    rw [render, String.toList_ofList]
    rfl
  simp only [parse, marked, forty, value]
  simp [Except.map]

end DoubleAuction.Address
