import DoubleAuction.Json.Token
import DoubleAuction.Proofs.Bytes

/-! # Tokens read back

A token that is written is the next one that is read, and what follows it is left over
(`nextToken?_text`). A number must be followed by something that is no part of a number; every
other token says itself where it ends.
-/

namespace DoubleAuction.Json

/-- The element that a character is read as once it is written: a control character is an escaped
code unit. -/
def elementOf (c : Char) : Element := if c.toNat < 0x20 then .unit c.toNat else .char c

theorem textOf?_elementOf_cons (c : Char) (rest : List Char) :
    textOf? (elementOf c :: rest.map elementOf) =
      (textOf? (rest.map elementOf)).map (c :: ·) := by
  unfold elementOf
  split
  case isFalse => rfl
  case isTrue control =>
    have single : (isHighSurrogate c.toNat || isLowSurrogate c.toNat) = false := by
      simp [isHighSurrogate, isLowSurrogate]
      omega
    obtain ⟨high, low⟩ := Bool.or_eq_false_iff.mp single
    cases rest with
    | nil => simp [textOf?, single]
    | cons next later =>
      by_cases nextControl : next.toNat < 0x20
      · simp [nextControl, textOf?, high, low]
      · simp [nextControl, textOf?, single]

/-- The elements of a text that was written spell that text. -/
theorem textOf?_map_elementOf (text : List Char) : textOf? (text.map elementOf) = some text := by
  induction text with
  | nil => rfl
  | cons c rest ih => rw [List.map_cons, textOf?_elementOf_cons, ih, Option.map_some]

theorem scanString_escape_append (c : Char) (rest : List Char) :
    scanString (escape c ++ rest) =
      (scanString rest).map fun (elements, rest) => (elementOf c :: elements, rest) := by
  by_cases quote : c = '"'
  · subst quote
    rfl
  by_cases backslash : c = '\\'
  · subst backslash
    rfl
  by_cases control : c.toNat < 0x20
  · have digits : Hex.read? (Hex.digits 4 c.toNat) = some c.toNat := by
      rw [Hex.read?_digits, Nat.mod_eq_of_lt (by omega)]
    simp only [escape, elementOf, quote, backslash, control, ↓reduceIte]
    simp only [Hex.digits, List.nil_append, List.cons_append] at digits ⊢
    simp only [scanString, digits, Option.bind_some]
  · simp only [escape, elementOf, quote, backslash, control, ↓reduceIte, List.singleton_append]
    rw [scanString]
    · simp only [control, backslash, or_self, ↓reduceIte]
    · exact quote
    · rintro _ _ _ _ _ rfl
      exact absurd rfl backslash
    · rintro _ _ rfl
      exact absurd rfl backslash

/-- A written string is read up to its closing quote mark. -/
theorem scanString_escaped (text rest : List Char) :
    scanString (text.flatMap escape ++ '"' :: rest) = some (text.map elementOf, rest) := by
  induction text with
  | nil => rfl
  | cons c later ih =>
    rw [List.flatMap_cons, List.append_assoc, scanString_escape_append, ih]
    rfl

/-- Whether a text may follow a value: it is empty, or goes on with a comma or a closing bracket. -/
def EndsValue (rest : List Char) : Prop := ∀ c ∈ rest.head?, c = ',' ∨ c = ']' ∨ c = '}'

theorem EndsValue.nil : EndsValue [] := by simp [EndsValue]

section Numbers

variable {rest : List Char}

/-- Digits are read up to the end of a value. -/
theorem scanDigits_append (ends : EndsValue rest) {digits : List Char} (nonempty : digits ≠ [])
    (decimal : ∀ c ∈ digits, c.isDigit = true) :
    scanDigits (digits ++ rest) = some (digits, rest) := by
  have stops : rest.takeWhile Char.isDigit = [] ∧ rest.dropWhile Char.isDigit = rest := by
    cases rest with
    | nil => exact ⟨rfl, rfl⟩
    | cons c later =>
      have plain : c.isDigit = false := by
        rcases ends c rfl with rfl | rfl | rfl <;> rfl
      simp [plain]
  simp only [scanDigits, List.takeWhile_append_of_pos decimal, List.dropWhile_append_of_pos decimal,
    stops, List.append_nil, List.isEmpty_eq_false_iff.mpr nonempty, Bool.false_eq_true, ↓reduceIte]

/-- Only zero is written with a leading zero. -/
theorem toDigits_head {n : Nat} (positive : n ≠ 0) :
    ∃ c later, Nat.toDigits 10 n = c :: later ∧ c ≠ '0' := by
  induction n using Nat.strongRecOn with
  | ind n ih =>
    by_cases small : n < 10
    · exact ⟨n.digitChar, [], Nat.toDigits_of_lt_base small,
        fun zero => positive (Nat.digitChar_eq_zero.mp zero)⟩
    · obtain ⟨c, later, digits, nonzero⟩ := ih (n / 10) (by omega) (by omega)
      refine ⟨c, later ++ [(n % 10).digitChar], ?_, nonzero⟩
      rw [Nat.toDigits_of_base_le (by decide) (by omega), digits, List.cons_append]

theorem scanInteger_toDigits (ends : EndsValue rest) (n : Nat) :
    scanInteger (Nat.toDigits 10 n ++ rest) = some (Nat.toDigits 10 n, rest) := by
  by_cases zero : n = 0
  · subst zero
    rfl
  · obtain ⟨c, later, digits, nonzero⟩ := toDigits_head zero
    have nonempty : Nat.toDigits 10 n ≠ [] := Nat.toDigits_ne_nil
    have scanned := scanDigits_append ends nonempty
      fun c member => Nat.isDigit_of_mem_toDigits (by decide) (by decide) member
    rw [digits] at scanned ⊢
    rw [← scanned, List.cons_append]
    unfold scanInteger
    split
    case h_1 same => exact absurd (List.cons.inj same).1 nonzero
    case h_2 => rfl

theorem scanFraction_of_endsValue (ends : EndsValue rest) :
    scanFraction rest = some (false, rest) := by
  unfold scanFraction
  split
  case h_1 => rcases ends '.' rfl with same | same | same <;> cases same
  case h_2 => rfl

theorem scanExponent_of_endsValue (ends : EndsValue rest) :
    scanExponent rest = some (false, rest) := by
  unfold scanExponent
  split
  case h_1 c later =>
    have none : ¬ (c = 'e' ∨ c = 'E') := by
      rcases ends c rfl with rfl | rfl | rfl <;> decide
    rw [if_neg none]
  case h_2 => rfl

theorem decimal_toDigits (n : Nat) : decimal (Nat.toDigits 10 n) = n := by
  have spelled : Nat.ofDigitChars 10 (Nat.toDigits 10 n) 0 = n :=
    Nat.ofDigitChars_toDigits (by decide) (by decide)
  rw [Nat.ofDigitChars_eq_foldl] at spelled
  simpa only [decimal, Nat.mul_comm] using spelled

theorem scanNumber_toDigits (ends : EndsValue rest) (n : Nat) :
    scanNumber (Nat.toDigits 10 n ++ rest) = some (some n, rest) := by
  simp [scanNumber, scanInteger_toDigits ends, scanFraction_of_endsValue ends,
    scanExponent_of_endsValue ends, decimal_toDigits]

/-- A text that begins with a digit begins with a number. -/
theorem nextToken?_of_isDigit {c : Char} (digit : c.isDigit = true) (rest : List Char) :
    nextToken? (c :: rest) =
      (scanNumber (c :: rest)).map fun (value, rest) => (.number value, rest) := by
  unfold nextToken?
  split
  case h_12 => rfl
  all_goals
    rename_i same
    cases (List.cons.inj same).1
    cases digit

theorem nextToken?_toDigits (ends : EndsValue rest) (n : Nat) :
    nextToken? (Nat.toDigits 10 n ++ rest) = some (.number (some n), rest) := by
  have scanned := scanNumber_toDigits ends n
  have digits (c : Char) (member : c ∈ Nat.toDigits 10 n) : c.isDigit = true :=
    Nat.isDigit_of_mem_toDigits (by decide) (by decide) member
  cases written : Nat.toDigits 10 n with
  | nil => exact absurd written Nat.toDigits_ne_nil
  | cons c later =>
    rw [written] at scanned digits
    rw [List.cons_append, nextToken?_of_isDigit (digits c List.mem_cons_self),
      ← List.cons_append, scanned, Option.map_some]

end Numbers

/-- A token that is written is the next one that is read. -/
theorem nextToken?_text (token : Token) {rest : List Char}
    (ends : ∀ value, token = .number value → EndsValue rest) :
    nextToken? (token.text ++ rest) = some (token, rest) := by
  cases token with
  | openObject => rfl
  | closeObject => rfl
  | openArray => rfl
  | closeArray => rfl
  | colon => rfl
  | comma => rfl
  | null => rfl
  | bool value => cases value <;> rfl
  | number value =>
    have behind := ends value rfl
    cases value with
    | none =>
      have scanned := scanNumber_toDigits behind 0
      change (scanNumber ('0' :: rest)).map _ = _
      change scanNumber ('0' :: rest) = _ at scanned
      rw [scanned]
      rfl
    | some n => exact nextToken?_toDigits behind n
  | string text =>
    cases text with
    | none => rfl
    | some text =>
      have scanned := scanString_escaped text.toList rest
      change (scanString (text.toList.flatMap escape ++ ['"'] ++ rest)).map _ = _
      rw [List.append_assoc, List.singleton_append, scanned]
      simp [textOf?_map_elementOf]

end DoubleAuction.Json
