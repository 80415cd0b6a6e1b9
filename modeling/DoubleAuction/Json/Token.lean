import DoubleAuction.Text.Hex

/-! # JSON tokens

The tokens of JSON text, with the way each is written and the way the next one is read. A string
whose escapes do not spell Unicode text, and a number that is not a plain natural number, keep only
their presence: nothing reads their value, but they may stand where a value is ignored.
-/

namespace DoubleAuction.Json

/-- A token. -/
inductive Token where
  | openObject
  | closeObject
  | openArray
  | closeArray
  | colon
  | comma
  | null
  | bool (value : Bool)
  /-- A number, with its value if it is written with digits only. -/
  | number (value : Option Nat)
  /-- A string, with its text if its escapes spell one. -/
  | string (text : Option String)
  deriving DecidableEq, Repr

/-- An element of a string: a character, or a code unit that an escape gives. -/
inductive Element where
  | char (c : Char)
  | unit (code : Nat)
  deriving DecidableEq, Repr

/-- Whether a code unit begins a pair. -/
def isHighSurrogate (code : Nat) : Bool := 0xd800 ≤ code && code < 0xdc00

/-- Whether a code unit ends a pair. -/
def isLowSurrogate (code : Nat) : Bool := 0xdc00 ≤ code && code < 0xe000

/-- The text of the elements of a string. A high surrogate must be followed by a low one, and the
pair is one character. -/
def textOf? : List Element → Option (List Char)
  | [] => some []
  | .char c :: rest => (textOf? rest).map (c :: ·)
  | .unit high :: .unit low :: rest =>
    if isHighSurrogate high then
      if isLowSurrogate low then
        (textOf? rest).map (Char.ofNat (0x10000 + (high - 0xd800) * 0x400 + (low - 0xdc00)) :: ·)
      else none
    else if isLowSurrogate high then none
    else (textOf? (.unit low :: rest)).map (Char.ofNat high :: ·)
  | .unit code :: rest =>
    if isHighSurrogate code || isLowSurrogate code then none
    else (textOf? rest).map (Char.ofNat code :: ·)

/-- The character that a one-letter escape stands for. -/
def unescape? : Char → Option Char
  | '"' => some '"'
  | '\\' => some '\\'
  | '/' => some '/'
  | 'b' => some '\x08'
  | 'f' => some '\x0c'
  | 'n' => some '\n'
  | 'r' => some '\r'
  | 't' => some '\t'
  | _ => none

/-- Reads a string behind its opening quote mark, up to the closing one. -/
def scanString : List Char → Option (List Element × List Char)
  | [] => none
  | '"' :: rest => some ([], rest)
  | '\\' :: 'u' :: a :: b :: c :: d :: rest =>
    (Hex.read? [a, b, c, d]).bind fun code =>
      (scanString rest).map fun (elements, rest) => (.unit code :: elements, rest)
  | '\\' :: c :: rest =>
    (unescape? c).bind fun c =>
      (scanString rest).map fun (elements, rest) => (.char c :: elements, rest)
  | c :: rest =>
    if c.toNat < 0x20 ∨ c = '\\' then none
    else (scanString rest).map fun (elements, rest) => (.char c :: elements, rest)

/-- The number that decimal digits spell. -/
def decimal (digits : List Char) : Nat :=
  digits.foldl (fun value c => value * 10 + (c.toNat - '0'.toNat)) 0

/-- Reads one or more digits. -/
def scanDigits (text : List Char) : Option (List Char × List Char) :=
  let digits := text.takeWhile Char.isDigit
  if digits.isEmpty then none else some (digits, text.dropWhile Char.isDigit)

/-- Reads the digits before the point; a number does not begin with a further zero. -/
def scanInteger : List Char → Option (List Char × List Char)
  | '0' :: rest => some (['0'], rest)
  | text => scanDigits text

/-- Reads a point and digits, if a point comes next, and says whether one did. -/
def scanFraction : List Char → Option (Bool × List Char)
  | '.' :: rest => (scanDigits rest).map fun (_, rest) => (true, rest)
  | text => some (false, text)

/-- Drops one sign. -/
def dropSign : List Char → List Char
  | '+' :: rest => rest
  | '-' :: rest => rest
  | text => text

/-- Reads an exponent, if one comes next, and says whether one did. -/
def scanExponent : List Char → Option (Bool × List Char)
  | c :: rest =>
    if c = 'e' ∨ c = 'E' then (scanDigits (dropSign rest)).map fun (_, rest) => (true, rest)
    else some (false, c :: rest)
  | [] => some (false, [])

/-- Reads a number without sign; its value counts if it has neither fraction nor exponent. -/
def scanNumber (text : List Char) : Option (Option Nat × List Char) := do
  let (digits, rest) ← scanInteger text
  let (fraction, rest) ← scanFraction rest
  let (exponent, rest) ← scanExponent rest
  return (if fraction || exponent then none else some (decimal digits), rest)

/-- Reads the next token of a text that begins with one. -/
def nextToken? : List Char → Option (Token × List Char)
  | '{' :: rest => some (.openObject, rest)
  | '}' :: rest => some (.closeObject, rest)
  | '[' :: rest => some (.openArray, rest)
  | ']' :: rest => some (.closeArray, rest)
  | ':' :: rest => some (.colon, rest)
  | ',' :: rest => some (.comma, rest)
  | 'n' :: 'u' :: 'l' :: 'l' :: rest => some (.null, rest)
  | 't' :: 'r' :: 'u' :: 'e' :: rest => some (.bool true, rest)
  | 'f' :: 'a' :: 'l' :: 's' :: 'e' :: rest => some (.bool false, rest)
  | '"' :: rest =>
    (scanString rest).map fun (elements, rest) =>
      (.string ((textOf? elements).map String.ofList), rest)
  | '-' :: rest => (scanNumber rest).map fun (_, rest) => (.number none, rest)
  | text => (scanNumber text).map fun (value, rest) => (.number value, rest)

/-- How one character of a string is written. -/
def escape (c : Char) : List Char :=
  if c = '"' then ['\\', '"']
  else if c = '\\' then ['\\', '\\']
  else if c.toNat < 0x20 then '\\' :: 'u' :: Hex.digits 4 c.toNat
  else [c]

/-- How a token is written. A number or a string without a value is written as one of those that
have none. -/
def Token.text : Token → List Char
  | openObject => ['{']
  | closeObject => ['}']
  | openArray => ['[']
  | closeArray => [']']
  | colon => [':']
  | comma => [',']
  | null => "null".toList
  | bool true => "true".toList
  | bool false => "false".toList
  | number (some value) => Nat.toDigits 10 value
  | number none => "-0".toList
  | string (some text) => '"' :: text.toList.flatMap escape ++ ['"']
  | string none => "\"\\ud800\"".toList

/-- Turning the value read into another one leaves the same rest of the text. -/
theorem scanned_of_map {α β : Type} {f : α × List Char → β × List Char}
    {scan : Option (α × List Char)} {result : β} {rest : List Char}
    (read : scan.map f = some (result, rest)) (keeps : ∀ scanned, (f scanned).2 = scanned.2) :
    ∃ value, scan = some (value, rest) := by
  obtain ⟨⟨value, behind⟩, found, same⟩ := Option.map_eq_some_iff.mp read
  have kept : behind = rest := (keeps (value, behind)).symm.trans (congrArg Prod.snd same)
  exact ⟨value, kept ▸ found⟩

theorem length_scanString {text rest : List Char} {elements : List Element}
    (read : scanString text = some (elements, rest)) : rest.length < text.length := by
  fun_induction scanString text generalizing elements rest with
  | case1 => contradiction
  | case2 behind =>
    cases read
    exact Nat.lt_succ_self _
  | case3 a b c d behind shorter =>
    -- The escape of a code unit.
    obtain ⟨_, _, continued⟩ := Option.bind_eq_some_iff.mp read
    obtain ⟨_, scanned⟩ := scanned_of_map continued fun _ => rfl
    have := shorter scanned
    simp only [List.length_cons]
    omega
  | case4 c behind _ shorter =>
    -- An escape of one letter.
    obtain ⟨_, _, continued⟩ := Option.bind_eq_some_iff.mp read
    obtain ⟨_, scanned⟩ := scanned_of_map continued fun _ => rfl
    have := shorter scanned
    simp only [List.length_cons]
    omega
  | case5 => contradiction
  | case6 c behind _ _ _ _ shorter =>
    -- A character that stands for itself.
    obtain ⟨_, scanned⟩ := scanned_of_map read fun _ => rfl
    exact Nat.lt_succ_of_lt (shorter scanned)

theorem length_scanDigits {text digits rest : List Char}
    (read : scanDigits text = some (digits, rest)) : rest.length < text.length := by
  unfold scanDigits at read
  dsimp only at read
  split at read
  case isTrue => contradiction
  case isFalse nonempty =>
    cases read
    have positive := List.length_pos_iff.mpr fun empty => nonempty (List.isEmpty_iff.mpr empty)
    have parts : (text.takeWhile Char.isDigit).length + (text.dropWhile Char.isDigit).length =
        text.length := by
      rw [← List.length_append, List.takeWhile_append_dropWhile]
    omega

theorem length_scanInteger {text digits rest : List Char}
    (read : scanInteger text = some (digits, rest)) : rest.length < text.length := by
  unfold scanInteger at read
  split at read
  · cases read
    exact Nat.lt_succ_self _
  · exact length_scanDigits read

theorem length_scanFraction {text rest : List Char} {present : Bool}
    (read : scanFraction text = some (present, rest)) : rest.length ≤ text.length := by
  unfold scanFraction at read
  split at read
  · obtain ⟨_, scanned⟩ := scanned_of_map read fun _ => rfl
    have := length_scanDigits scanned
    simp only [List.length_cons]
    omega
  · cases read
    exact Nat.le_refl _

theorem length_dropSign (text : List Char) : (dropSign text).length ≤ text.length := by
  unfold dropSign
  split <;> simp

theorem length_scanExponent {text rest : List Char} {present : Bool}
    (read : scanExponent text = some (present, rest)) : rest.length ≤ text.length := by
  cases text with
  | nil =>
    cases read
    exact Nat.le_refl _
  | cons c behind =>
    unfold scanExponent at read
    dsimp only at read
    split at read
    · obtain ⟨_, scanned⟩ := scanned_of_map read fun _ => rfl
      have := length_scanDigits scanned
      have := length_dropSign behind
      simp only [List.length_cons]
      omega
    · cases read
      exact Nat.le_refl _

theorem length_scanNumber {text rest : List Char} {value : Option Nat}
    (read : scanNumber text = some (value, rest)) : rest.length < text.length := by
  simp only [scanNumber, bind, Option.bind_eq_some_iff, Prod.exists, pure, Option.some.injEq,
    Prod.mk.injEq] at read
  obtain ⟨_, _, integer, _, _, fraction, _, _, exponent, _, rfl⟩ := read
  have := length_scanInteger integer
  have := length_scanFraction fraction
  have := length_scanExponent exponent
  omega

/-- Reading a token consumes text. -/
theorem length_nextToken? {text rest : List Char} {token : Token}
    (read : nextToken? text = some (token, rest)) : rest.length < text.length := by
  fun_cases nextToken? text with
  | case10 behind =>
    -- A string.
    simp only [nextToken?] at read
    obtain ⟨_, scanned⟩ := scanned_of_map read fun _ => rfl
    exact Nat.lt_succ_of_lt (length_scanString scanned)
  | case11 behind =>
    -- A number with a sign.
    simp only [nextToken?] at read
    obtain ⟨_, scanned⟩ := scanned_of_map read fun _ => rfl
    exact Nat.lt_succ_of_lt (length_scanNumber scanned)
  | case12 =>
    -- A number without one.
    simp only [nextToken?] at read
    obtain ⟨_, scanned⟩ := scanned_of_map read fun _ => rfl
    exact length_scanNumber scanned
  | _ =>
    -- A token of fixed text.
    cases read
    simp only [List.length_cons]
    omega

end DoubleAuction.Json
