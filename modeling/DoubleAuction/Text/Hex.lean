/-! # Hexadecimal digits and blanks

Numbers are written with lower-case digits and read with digits of either case. A number is
written at a fixed width (addresses, words) or with as few digits as it needs (order keys). Digits
that are spaced out are read past the blanks among them, which are the blanks of JSON text too: the
space, the tab and the two line ends.
-/

namespace DoubleAuction

/-- Whether a character only separates others. -/
def Text.isBlank (c : Char) : Bool := c = ' ' || c = '\t' || c = '\n' || c = '\r'

namespace Hex

/-- The lower-case digit of a value below sixteen. -/
def digit (value : Nat) : Char :=
  if value < 10 then Char.ofNat ('0'.toNat + value) else Char.ofNat ('a'.toNat + (value - 10))

/-- The value of a digit of either case. -/
def value? (c : Char) : Option Nat :=
  if '0' ≤ c ∧ c ≤ '9' then some (c.toNat - '0'.toNat)
  else if 'a' ≤ c ∧ c ≤ 'f' then some (c.toNat - 'a'.toNat + 10)
  else if 'A' ≤ c ∧ c ≤ 'F' then some (c.toNat - 'A'.toNat + 10)
  else none

/-- The lowest `width` digits of a number, most significant first. -/
def digits : (width : Nat) → Nat → List Char
  | 0, _ => []
  | width + 1, n => digits width (n / 16) ++ [digit (n % 16)]

/-- Reads digits, most significant first, behind the digits already read. -/
def readFrom? (read : Nat) : List Char → Option Nat
  | [] => some read
  | c :: rest => (value? c).bind fun value => readFrom? (read * 16 + value) rest

/-- The number that a text of digits spells; the empty text spells zero. -/
def read? (text : List Char) : Option Nat := readFrom? 0 text

/-- Reads digits with blanks among them. Two digits fill a byte, and in a text of odd length, blanks
included, the first digit has a byte of its own. So after an odd number of blanks the last digit is
left without a partner; a byte that is not filled does not count. -/
def readSpaced? (text : List Char) : Option Nat :=
  (read? (text.filter (!Text.isBlank ·))).map fun value =>
    if text.countP Text.isBlank % 2 = 1 then value / 16 else value

/-- A number with no leading zeros; zero has one digit. -/
def shortest (n : Nat) : String := String.ofList (Nat.toDigits 16 n)

@[simp] theorem length_digits (width n : Nat) : (digits width n).length = width := by
  induction width generalizing n with
  | zero => rfl
  | succ width ih => simp [digits, ih]

/-- A digit reads back as its value. -/
theorem value?_digit {value : Nat} (small : value < 16) : value? (digit value) = some value := by
  revert value
  decide

theorem readFrom?_append (read : Nat) (left right : List Char) :
    readFrom? read (left ++ right) =
      (readFrom? read left).bind fun read => readFrom? read right := by
  induction left generalizing read with
  | nil => rfl
  | cons c rest ih => cases value : value? c <;> simp [readFrom?, value, ih]

/-- Without blanks the digits are read as they stand. -/
theorem readSpaced?_eq_read? {text : List Char} (plain : ∀ c ∈ text, Text.isBlank c = false) :
    readSpaced? text = read? text := by
  have digits : text.filter (!Text.isBlank ·) = text :=
    List.filter_eq_self.mpr fun c member => by simp [plain c member]
  have noBlanks : text.countP Text.isBlank = 0 :=
    List.countP_eq_zero.mpr fun c member => by simp [plain c member]
  simp [readSpaced?, digits, noBlanks]

end Hex

end DoubleAuction
