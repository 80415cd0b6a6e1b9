import DoubleAuction.Text.Hex

/-! # Addresses

Traders, heaps, markets and ledgers are named by 160-bit addresses. The zero address is reserved:
it never owns a live order. Addresses are ordered as numbers, which is also the order of their
bytes and of their written forms.
-/

namespace DoubleAuction

/-- A 256-bit word, compared as an unsigned number. -/
abbrev Word := BitVec 256

/-- The name of a trader, a heap, a market or a ledger. -/
structure Address where
  word : BitVec 160
  deriving DecidableEq, Repr

namespace Address

/-- The reserved address. -/
def zero : Address := ⟨0⟩

instance : Inhabited Address := ⟨zero⟩

instance : LT Address := ⟨fun a b => a.word < b.word⟩

instance : LE Address := ⟨fun a b => a.word ≤ b.word⟩

instance (a b : Address) : Decidable (a < b) := inferInstanceAs (Decidable (a.word < b.word))

instance (a b : Address) : Decidable (a ≤ b) := inferInstanceAs (Decidable (a.word ≤ b.word))

instance : Ord Address := ⟨fun a b => compare a.word.toNat b.word.toNat⟩

@[ext] theorem ext {a b : Address} (same : a.word = b.word) : a = b := by
  cases a
  cases b
  exact congrArg mk same

theorem lt_iff_toNat_lt {a b : Address} : a < b ↔ a.word.toNat < b.word.toNat := Iff.rfl

theorem lt_irrefl (a : Address) : ¬ a < a := Nat.lt_irrefl _

theorem lt_trans {a b c : Address} (left : a < b) (right : b < c) : a < c :=
  Nat.lt_trans left right

theorem ne_of_lt {a b : Address} (less : a < b) : a ≠ b := by
  rintro rfl
  exact lt_irrefl a less

/-- Of two different addresses one is smaller. -/
theorem lt_of_not_lt_of_ne {a b : Address} (notLess : ¬ a < b) (ne : a ≠ b) : b < a := by
  have different : a.word.toNat ≠ b.word.toNat := fun same => ne (ext (BitVec.eq_of_toNat_eq same))
  rw [lt_iff_toNat_lt] at notLess ⊢
  omega

/-- The address whose low 64 bits are a given number. -/
def ofLow (low : UInt64) : Address := ⟨low.toBitVec.setWidth 160⟩

/-- The low 160 bits of a word. -/
def ofWord (word : Word) : Address := ⟨word.setWidth 160⟩

/-- The address as a word, with zero bits above it. -/
def toWord (a : Address) : Word := a.word.setWidth 256

/-- The forty digits of an address. -/
def digits (a : Address) : List Char := Hex.digits 40 a.word.toNat

/-- The written form: the marker `0x` and forty lower-case digits. -/
def render (a : Address) : String := String.ofList ('0' :: 'x' :: a.digits)

instance : ToString Address := ⟨render⟩

/-- The first four bytes in hexadecimal, for short announcements. -/
def short (a : Address) : String := String.ofList (a.digits.take 8)

end Address

end DoubleAuction
