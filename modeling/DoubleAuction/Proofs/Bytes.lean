import Mathlib.Algebra.GroupWithZero.Nat
import DoubleAuction.Address
import DoubleAuction.Bytes

/-! # Reading numbers back

Digits of a fixed width determine a number modulo that width, and so do bytes. Written with the most
significant byte first, numbers are in the order of their bytes (`bigEndian_lt_iff`). An address is
determined by its twenty bytes and has their order.
-/

namespace DoubleAuction

namespace Hex

/-- Fixed-width digits read back as the number modulo that width. -/
theorem read?_digits (width n : Nat) : read? (digits width n) = some (n % 16 ^ width) := by
  have general (read : Nat) :
      readFrom? read (digits width n) = some (read * 16 ^ width + n % 16 ^ width) := by
    induction width generalizing n with
    | zero => simp [digits, readFrom?, Nat.mod_one]
    | succ width ih =>
      have split : n % (16 ^ width * 16) = n / 16 % 16 ^ width * 16 + n % 16 := by
        rw [Nat.mul_comm (16 ^ width) 16, Nat.mod_mul]
        omega
      simp [digits, readFrom?_append, ih, readFrom?, value?_digit (Nat.mod_lt n (by decide)), split,
        Nat.pow_succ, Nat.add_mul, Nat.mul_assoc, Nat.add_assoc]
  simpa [read?] using general 0

theorem value?_digitChar {value : Nat} (small : value < 16) :
    value? value.digitChar = some value := by
  revert value
  decide

/-- As many digits as a number needs read back as the number. -/
theorem read?_toDigits (n : Nat) : read? (Nat.toDigits 16 n) = some n := by
  induction n using Nat.strongRecOn with
  | ind n ih =>
    by_cases small : n < 16
    · simp [read?, Nat.toDigits_of_lt_base small, readFrom?, value?_digitChar small]
    · have higher := ih (n / 16) (by omega)
      rw [read?] at higher ⊢
      rw [Nat.toDigits_of_base_le (by decide) (by omega), readFrom?_append, higher]
      simp only [readFrom?, value?_digitChar (Nat.mod_lt n (by decide)), Option.bind_some]
      congr 1
      omega

/-- A text that reads as a number consists of digits. -/
theorem value?_of_read? {text : List Char} {read value : Nat}
    (reads : readFrom? read text = some value) {c : Char} (member : c ∈ text) :
    (value? c).isSome := by
  induction text generalizing read with
  | nil => cases member
  | cons first rest ih =>
    obtain ⟨digit, here, later⟩ := Option.bind_eq_some_iff.mp reads
    rcases List.mem_cons.mp member with rfl | inside
    · rw [here]
      rfl
    · exact ih later inside

theorem isBlank_of_value? {c : Char} (digit : (value? c).isSome) : Text.isBlank c = false := by
  cases blank : Text.isBlank c with
  | false => rfl
  | true =>
    simp only [Text.isBlank, Bool.or_eq_true, decide_eq_true_eq] at blank
    rcases blank with ((rfl | rfl) | rfl) | rfl <;> cases digit

end Hex

/-- Numbers are compared by their high digits, and by their low digits where these agree. -/
theorem digits_lt_iff {base high low otherHigh otherLow : Nat} (small : low < base)
    (otherSmall : otherLow < base) :
    low + base * high < otherLow + base * otherHigh ↔
      high < otherHigh ∨ high = otherHigh ∧ low < otherLow := by
  have higher {less more : Nat} (lt : less < more) : base * less + base ≤ base * more :=
    Nat.mul_le_mul_left base lt
  rcases Nat.lt_trichotomy high otherHigh with lt | rfl | gt
  · have := higher lt
    omega
  · omega
  · have := higher gt
    omega

namespace Bytes

/-- The most significant byte stands last, where the least significant one is written first. -/
theorem littleEndian_succ (width n : Nat) :
    littleEndian (width + 1) n = littleEndian width n ++ [UInt8.ofNat (n / 256 ^ width)] := by
  induction width generalizing n with
  | zero => simp [littleEndian]
  | succ width ih =>
    rw [littleEndian, ih, littleEndian, Nat.div_div_eq_div_mul, Nat.pow_succ,
      Nat.mul_comm (256 ^ width)]
    rfl

theorem bigEndian_succ (width n : Nat) :
    bigEndian (width + 1) n = UInt8.ofNat (n / 256 ^ width) :: bigEndian width n := by
  simp only [bigEndian, littleEndian_succ, List.reverse_append, List.reverse_singleton,
    List.singleton_append]

/-- Bytes with the most significant one first are in the order of the numbers, modulo the width. -/
theorem bigEndian_lt_iff (width m n : Nat) :
    bigEndian width m < bigEndian width n ↔ m % 256 ^ width < n % 256 ^ width := by
  induction width with
  | zero => simp [bigEndian, littleEndian, Nat.mod_one]
  | succ width ih =>
    have positive : 0 < 256 ^ width := Nat.pow_pos (by decide)
    have split (number : Nat) : number % 256 ^ (width + 1) =
        number % 256 ^ width + 256 ^ width * (number / 256 ^ width % 256) := by
      rw [Nat.pow_succ, Nat.mod_mul]
    rw [split, split, digits_lt_iff (Nat.mod_lt m positive) (Nat.mod_lt n positive),
      bigEndian_succ, bigEndian_succ, List.cons_lt_cons_iff, ih, UInt8.lt_iff_toNat_lt,
      ← UInt8.toNat_inj, UInt8.toNat_ofNat', UInt8.toNat_ofNat']

/-- Numbers with the same bytes agree modulo the width. -/
theorem mod_eq_of_littleEndian_eq {width m n : Nat}
    (same : littleEndian width m = littleEndian width n) : m % 256 ^ width = n % 256 ^ width := by
  induction width generalizing m n with
  | zero => simp [Nat.mod_one]
  | succ width ih =>
    obtain ⟨head, tail⟩ := List.cons.inj same
    have low : m % 256 = n % 256 := by simpa using congrArg UInt8.toNat head
    rw [Nat.pow_succ, Nat.mul_comm (256 ^ width), Nat.mod_mul, Nat.mod_mul, low, ih tail]

theorem mod_eq_of_bigEndian_eq {width m n : Nat} (same : bigEndian width m = bigEndian width n) :
    m % 256 ^ width = n % 256 ^ width :=
  mod_eq_of_littleEndian_eq (List.reverse_inj.mp same)

/-- A word of 64 bits is determined by its eight bytes. -/
theorem littleEndian_toNat_injective :
    Function.Injective fun word : UInt64 => littleEndian 8 word.toNat := by
  intro word other same
  have fits (word : UInt64) : word.toNat < 256 ^ 8 := word.toNat_lt
  have value := mod_eq_of_littleEndian_eq same
  rw [Nat.mod_eq_of_lt (fits word), Nat.mod_eq_of_lt (fits other)] at value
  exact UInt64.toNat_inj.mp value

end Bytes

namespace Address

/-- The twenty bytes of an address. -/
def bytes (a : Address) : List UInt8 := Bytes.bigEndian 20 a.word.toNat

theorem toNat_lt (a : Address) : a.word.toNat < 256 ^ 20 := a.word.isLt

/-- An address is determined by its bytes. -/
theorem bytes_injective : Function.Injective bytes := by
  intro a b same
  have value := Bytes.mod_eq_of_bigEndian_eq same
  rw [Nat.mod_eq_of_lt a.toNat_lt, Nat.mod_eq_of_lt b.toNat_lt] at value
  exact ext (BitVec.eq_of_toNat_eq value)

/-- Addresses are in the order of their bytes. -/
theorem lt_iff_bytes_lt {a b : Address} : a < b ↔ a.bytes < b.bytes := by
  rw [lt_iff_toNat_lt, bytes, bytes, Bytes.bigEndian_lt_iff, Nat.mod_eq_of_lt a.toNat_lt,
    Nat.mod_eq_of_lt b.toNat_lt]

end Address

end DoubleAuction
