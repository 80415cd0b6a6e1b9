import DoubleAuction.Address

/-! # Reading addresses

An address is written as forty hexadecimal digits of either case, with or without one leading `0x`.
Length and position are counted in the bytes of the text, so a character outside ASCII is reported
at its first byte.
-/

namespace DoubleAuction.Address

/-- Why a text is not an address. -/
inductive TextFault where
  | oddLength
  | wrongLength
  /-- The byte at this index behind the marker is not a digit. -/
  | notADigit (byte : UInt8) (index : Nat)
  deriving DecidableEq, Repr

/-- The bytes of a text. -/
def bytesOf (text : List Char) : List UInt8 := text.flatMap String.utf8EncodeChar

/-- The text behind one leading `0x`, if it has one. -/
def dropMarker : List Char → List Char
  | '0' :: 'x' :: rest => rest
  | text => text

/-- The value of a byte that is a hexadecimal digit. -/
def digitOf? (byte : UInt8) : Option Nat := Hex.value? (Char.ofNat byte.toNat)

/-- Reads digits behind the `read` value of the `index` digits before them. -/
def readDigits (index read : Nat) : List UInt8 → Except TextFault Nat
  | [] => .ok read
  | byte :: rest =>
    match digitOf? byte with
    | some value => readDigits (index + 1) (read * 16 + value) rest
    | none => .error (.notADigit byte index)

/-- Reads an address: the length of the digits is judged first, then the digits from the left. -/
def parse (text : String) : Except TextFault Address :=
  let bytes := bytesOf (dropMarker text.toList)
  if bytes.length % 2 = 1 then .error .oddLength
  else if bytes.length ≠ 40 then .error .wrongLength
  else (readDigits 0 0 bytes).map fun value => ⟨BitVec.ofNat 160 value⟩

end DoubleAuction.Address
