import Mathlib.Data.Bool.AllAny
import Mathlib.Data.List.Induction
import DoubleAuction.Error
import DoubleAuction.Proofs.Address.Text

/-! # The texts of addresses

The texts that are read as addresses are forty digits of either case, with or without a marker
before them; a text spells the twenty bytes of its address, two digits each (`Address.Spells`). Any
other text is refused, for the first of three faults of its bytes that applies (`Address.FaultIn`).
Every text spells an address or has a fault (`Address.spells_or_fault`), and reading it gives just
that (`Address.texts_by_grammar`). Two texts spell one address when they differ in the marker and in
the case of digits only, since the address is written with their digits in lower case.
-/

namespace DoubleAuction

namespace Hex

/-- The sixteen digits in lower case, in the order of their values. -/
def lowerDigits : List Char :=
  ['0', '1', '2', '3', '4', '5', '6', '7', '8', '9', 'a', 'b', 'c', 'd', 'e', 'f']

/-- The digits of either case. -/
def allDigits : List Char := lowerDigits ++ ['A', 'B', 'C', 'D', 'E', 'F']

/-- A digit of either case. -/
def IsDigit (c : Char) : Prop := c ∈ allDigits

instance : DecidablePred IsDigit := fun c => inferInstanceAs (Decidable (c ∈ allDigits))

/-- The value of a digit is its place among the sixteen. -/
def digitValue (c : Char) : Nat := lowerDigits.idxOf c.toLower

/-- The bytes that digits spell, two digits each. -/
def spelledBytes : List Char → List UInt8
  | high :: low :: rest => .ofNat (16 * digitValue high + digitValue low) :: spelledBytes rest
  | _ => []

theorem IsDigit.toNat_lt {c : Char} (digit : IsDigit c) : c.toNat < 128 := by
  have ascii : ∀ c ∈ allDigits, c.toNat < 128 := List.all_iff_forall_prop.mp (by decide)
  exact ascii c digit

theorem IsDigit.digitValue_lt {c : Char} (digit : IsDigit c) : digitValue c < 16 := by
  have small : ∀ c ∈ allDigits, digitValue c < 16 := List.all_iff_forall_prop.mp (by decide)
  exact small c digit

/-- A digit is written in lower case. -/
theorem IsDigit.digit_digitValue {c : Char} (isDigit : IsDigit c) :
    digit (digitValue c) = c.toLower := by
  have lower : ∀ c ∈ allDigits, digit (digitValue c) = c.toLower :=
    List.all_iff_forall_prop.mp (by decide)
  exact lower c isDigit

/-- Digits, and nothing else, are read as their values. -/
theorem value?_eq (c : Char) : value? c = if IsDigit c then some (digitValue c) else none := by
  have digits : ∀ c ∈ allDigits, value? c = some (digitValue c) :=
    List.all_iff_forall_prop.mp (by decide)
  have table : ∀ code < 128, (value? (Char.ofNat code)).isSome → IsDigit (Char.ofNat code) := by
    decide +kernel
  split
  case isTrue digit => exact digits c digit
  case isFalse foreign =>
    rw [Option.eq_none_iff_forall_ne_some]
    intro value read
    have digit := table c.toNat (Address.toNat_lt_of_value? read)
    rw [Char.ofNat_toNat, read] at digit
    exact foreign (digit rfl)

theorem value?_eq_some_iff {c : Char} {value : Nat} :
    value? c = some value ↔ IsDigit c ∧ value = digitValue c := by
  rw [value?_eq]
  split
  case isTrue digit => simp [digit, eq_comm]
  case isFalse foreign => simp [foreign]

variable {text : List Char} {read value : Nat}

/-- A text of digits is read. -/
theorem readFrom?_of_digits (digits : ∀ c ∈ text, IsDigit c) (read : Nat) :
    ∃ value, readFrom? read text = some value := by
  induction text generalizing read with
  | nil => exact ⟨read, rfl⟩
  | cons c rest ih =>
    obtain ⟨first, later⟩ := List.forall_mem_cons.mp digits
    obtain ⟨value, reads⟩ := ih later (read * 16 + digitValue c)
    refine ⟨value, ?_⟩
    rw [readFrom?, value?_eq, if_pos first]
    exact reads

/-- What was read before the digits stands above them. -/
theorem div_of_readFrom? (reads : readFrom? read text = some value) :
    value / 16 ^ text.length = read := by
  induction text generalizing read with
  | nil =>
    cases reads
    exact Nat.div_one _
  | cons c rest ih =>
    obtain ⟨digit, here, later⟩ := Option.bind_eq_some_iff.mp reads
    obtain ⟨isDigit, rfl⟩ := value?_eq_some_iff.mp here
    have small := isDigit.digitValue_lt
    rw [List.length_cons, Nat.pow_succ, ← Nat.div_div_eq_div_mul, ih later]
    omega

/-- The number that digits spell has the bytes that they spell. -/
theorem bigEndian_of_readFrom? {width : Nat} (length : text.length = 2 * width)
    (reads : readFrom? read text = some value) :
    Bytes.bigEndian width value = spelledBytes text := by
  induction width generalizing text read with
  | zero =>
    rw [List.length_eq_zero_iff.mp length]
    rfl
  | succ width ih =>
    match text with
    | [] | [_] =>
      simp only [List.length_nil, List.length_singleton] at length
      omega
    | high :: low :: rest =>
      have shorter : rest.length = 2 * width := by
        simp only [List.length_cons] at length
        omega
      obtain ⟨_, first, reads⟩ := Option.bind_eq_some_iff.mp reads
      obtain ⟨_, second, reads⟩ := Option.bind_eq_some_iff.mp reads
      obtain ⟨_, rfl⟩ := value?_eq_some_iff.mp first
      obtain ⟨_, rfl⟩ := value?_eq_some_iff.mp second
      have above := div_of_readFrom? reads
      rw [shorter, Nat.pow_mul] at above
      rw [Bytes.bigEndian_succ, spelledBytes, ih shorter reads, above]
      congr 1
      rw [← UInt8.toNat_inj, UInt8.toNat_ofNat', UInt8.toNat_ofNat']
      omega

/-- A number is written with the digits that spell it, in lower case. -/
theorem digits_of_readFrom? (reads : readFrom? read text = some value) :
    digits text.length value = text.map Char.toLower := by
  induction text using List.reverseRecOn generalizing value with
  | nil => rfl
  | append_singleton rest c ih =>
    rw [readFrom?_append] at reads
    obtain ⟨before, earlier, reads⟩ := Option.bind_eq_some_iff.mp reads
    obtain ⟨_, last, reads⟩ := Option.bind_eq_some_iff.mp reads
    obtain ⟨isDigit, rfl⟩ := value?_eq_some_iff.mp last
    obtain rfl := Option.some.inj reads
    have small := isDigit.digitValue_lt
    have above : (before * 16 + digitValue c) / 16 = before := by omega
    have below : (before * 16 + digitValue c) % 16 = digitValue c := by omega
    rw [List.length_append, List.length_singleton, digits, above, below, ih earlier,
      isDigit.digit_digitValue, List.map_append, List.map_singleton]

end Hex

namespace Address

/-- A text without its marker: what stands behind one leading `0x`, or all of it. -/
def unmarked (text : String) : List Char :=
  if ['0', 'x'] <+: text.toList then text.toList.drop 2 else text.toList

/-- The bytes of a text in UTF-8. -/
def utf8 (text : List Char) : List UInt8 := (String.ofList text).toUTF8.data.toList

/-- The byte of a digit. -/
def IsDigitByte (byte : UInt8) : Prop := Hex.IsDigit (Char.ofNat byte.toNat)

instance : DecidablePred IsDigitByte := fun byte =>
  inferInstanceAs (Decidable (Hex.IsDigit (Char.ofNat byte.toNat)))

/-- Forty digits spell the address that has their bytes. -/
structure Spells (text : List Char) (address : Address) : Prop where
  digits : ∀ c ∈ text, Hex.IsDigit c
  length : text.length = 40
  bytes : address.bytes = Hex.spelledBytes text

/-- What is wrong with the bytes of a text: an odd number of them, else another number than forty,
else the first that is no digit, at its index. -/
inductive FaultIn : List UInt8 → TextFault → Prop
  | oddLength {bytes : List UInt8} (odd : bytes.length % 2 = 1) : FaultIn bytes .oddLength
  | wrongLength {bytes : List UInt8} (even : bytes.length % 2 = 0) (other : bytes.length ≠ 40) :
      FaultIn bytes .wrongLength
  | notADigit {before after : List UInt8} {byte : UInt8}
      (length : (before ++ byte :: after).length = 40)
      (digits : ∀ earlier ∈ before, IsDigitByte earlier) (foreign : ¬ IsDigitByte byte) :
      FaultIn (before ++ byte :: after) (.notADigit byte before.length)

theorem dropMarker_eq (text : String) : dropMarker text.toList = unmarked text := by
  rw [unmarked]
  generalize text.toList = text
  split
  case isTrue marked =>
    obtain ⟨rest, rfl⟩ := marked
    rfl
  case isFalse bare =>
    unfold dropMarker
    split
    case h_1 rest => exact absurd (List.prefix_append ['0', 'x'] rest) bare
    case h_2 => rfl

theorem bytesOf_eq (text : List Char) : bytesOf text = utf8 text := by
  rw [utf8, String.toUTF8_eq_toByteArray, String.toByteArray_ofList, List.utf8Encode,
    List.data_toByteArray]
  rfl

theorem digitOf?_eq (byte : UInt8) :
    digitOf? byte =
      if IsDigitByte byte then some (Hex.digitValue (Char.ofNat byte.toNat)) else none :=
  Hex.value?_eq _

/-- A character outside ASCII has no byte of a digit. -/
theorem le_of_mem_utf8EncodeChar {c : Char} (wide : 128 ≤ c.toNat) {byte : UInt8}
    (member : byte ∈ String.utf8EncodeChar c) : 128 ≤ byte.toNat := by
  have beyond : ¬ c.val.toNat ≤ 127 := Nat.not_le_of_lt wide
  simp only [String.utf8EncodeChar, if_neg beyond] at member
  split at member
  case isTrue =>
    simp only [List.mem_cons, List.not_mem_nil, or_false] at member
    rcases member with rfl | rfl <;> rw [UInt8.toNat_ofNat'] <;> omega
  case isFalse =>
    split at member
    case isTrue =>
      simp only [List.mem_cons, List.not_mem_nil, or_false] at member
      rcases member with rfl | rfl | rfl <;> rw [UInt8.toNat_ofNat'] <;> omega
    case isFalse =>
      simp only [List.mem_cons, List.not_mem_nil, or_false] at member
      rcases member with rfl | rfl | rfl | rfl <;> rw [UInt8.toNat_ofNat'] <;> omega

theorem IsDigitByte.toNat_lt {byte : UInt8} (digit : IsDigitByte byte) : byte.toNat < 128 := by
  have narrow := byte.toNat_lt
  have code : (Char.ofNat byte.toNat).toNat = byte.toNat := by
    rw [Char.ofNat, dif_pos (.inl (by omega))]
    rfl
  rw [← code]
  exact Hex.IsDigit.toNat_lt digit

/-- Where every byte of a character is that of a digit, the character is one. -/
theorem isDigit_of_bytes {c : Char}
    (digits : ∀ byte ∈ String.utf8EncodeChar c, IsDigitByte byte) : Hex.IsDigit c := by
  by_cases ascii : c.toNat < 128
  · rw [utf8EncodeChar_of_lt ascii] at digits
    have digit := digits _ List.mem_cons_self
    rwa [IsDigitByte, toNat_byte ascii, Char.ofNat_toNat] at digit
  · have encoded : String.utf8EncodeChar c ≠ [] := String.utf8EncodeChar_ne_nil
    obtain ⟨byte, member⟩ := List.exists_mem_of_ne_nil _ encoded
    have wide := le_of_mem_utf8EncodeChar (Nat.le_of_not_lt ascii) member
    exact absurd (digits byte member).toNat_lt (Nat.not_lt_of_le wide)

/-- Reading digits stops at the first byte that is none. -/
theorem readDigits_of_foreign {before : List UInt8} {byte : UInt8}
    (digits : ∀ earlier ∈ before, IsDigitByte earlier) (foreign : ¬ IsDigitByte byte)
    (index read : Nat) (after : List UInt8) :
    readDigits index read (before ++ byte :: after) =
      .error (.notADigit byte (index + before.length)) := by
  induction before generalizing index read with
  | nil =>
    rw [List.nil_append, readDigits, digitOf?_eq, if_neg foreign]
    rfl
  | cons first rest ih =>
    obtain ⟨here, later⟩ := List.forall_mem_cons.mp digits
    rw [List.cons_append, readDigits, digitOf?_eq, if_pos here, List.length_cons,
      Nat.add_comm rest.length, ← Nat.add_assoc]
    exact ih later (index + 1) _

/-- Forty digits are read as a number, whose bytes they spell. -/
theorem spells_of_digits {text : List Char} (digits : ∀ c ∈ text, Hex.IsDigit c)
    (length : text.length = 40) :
    ∃ value, Hex.readFrom? 0 text = some value ∧ value < 2 ^ 160 ∧
      Spells text ⟨.ofNat 160 value⟩ := by
  obtain ⟨value, reads⟩ := Hex.readFrom?_of_digits digits 0
  have above := Hex.div_of_readFrom? reads
  rw [length] at above
  have fits : value < 2 ^ 160 := (Nat.div_eq_zero_iff_lt (by decide)).mp above
  refine ⟨value, reads, fits, digits, length, ?_⟩
  rw [bytes, BitVec.toNat_ofNat, Nat.mod_eq_of_lt fits]
  exact Hex.bigEndian_of_readFrom? length reads

/-- The number that an address's digits are read as is its word. -/
theorem Spells.reads {text : List Char} {address : Address} (spells : Spells text address) :
    Hex.readFrom? 0 text = some address.word.toNat := by
  obtain ⟨value, reads, fits, spelled⟩ := spells_of_digits spells.digits spells.length
  obtain rfl := bytes_injective (spells.bytes.trans spelled.bytes.symm)
  rw [reads, BitVec.toNat_ofNat, Nat.mod_eq_of_lt fits]

/-- An address is written with the digits that spell it, in lower case. -/
theorem Spells.digits_eq {text : List Char} {address : Address} (spells : Spells text address) :
    address.digits = text.map Char.toLower := by
  rw [Address.digits, ← spells.length]
  exact Hex.digits_of_readFrom? spells.reads

/-- Bytes are forty digits or have a fault. -/
theorem digits_or_fault (bytes : List UInt8) :
    (bytes.length = 40 ∧ ∀ byte ∈ bytes, IsDigitByte byte) ∨ ∃ fault, FaultIn bytes fault := by
  by_cases odd : bytes.length % 2 = 1
  · exact .inr ⟨_, .oddLength odd⟩
  by_cases other : bytes.length ≠ 40
  · exact .inr ⟨_, .wrongLength (by omega) other⟩
  have forty : bytes.length = 40 := not_ne_iff.mp other
  cases found : bytes.find? fun byte => ¬ IsDigitByte byte with
  | none =>
    refine .inl ⟨forty, ?_⟩
    intro byte member
    simpa using List.find?_eq_none.mp found byte member
  | some byte =>
    obtain ⟨foreign, before, after, rfl, digits⟩ := List.find?_eq_some_iff_append.mp found
    refine .inr ⟨_, .notADigit forty ?_ (of_decide_eq_true foreign)⟩
    intro earlier member
    simpa using digits earlier member

/-- A text whose bytes are forty digits spells an address. -/
theorem spells_of_bytes {text : List Char} (length : (utf8 text).length = 40)
    (digits : ∀ byte ∈ utf8 text, IsDigitByte byte) : ∃ address, Spells text address := by
  rw [← bytesOf_eq] at length digits
  have digits : ∀ c ∈ text, Hex.IsDigit c := by
    intro c member
    apply isDigit_of_bytes
    intro byte inside
    exact digits byte (List.mem_flatMap.mpr ⟨c, member, inside⟩)
  obtain ⟨value, reads⟩ := Hex.readFrom?_of_digits digits 0
  have same := (readDigits_bytesOf reads 0).2
  obtain ⟨_, _, _, spells⟩ := spells_of_digits digits (same.symm.trans length)
  exact ⟨_, spells⟩

/-- Every text spells an address or has a fault. -/
theorem spells_or_fault (text : List Char) :
    (∃ address, Spells text address) ∨ ∃ fault, FaultIn (utf8 text) fault := by
  rcases digits_or_fault (utf8 text) with ⟨length, digits⟩ | faulty
  · exact .inl (spells_of_bytes length digits)
  · exact .inr faulty

section Reading

variable {text : String}

theorem ofText_of_spells {address : Address} (spells : Spells (unmarked text) address) :
    ofText text = .ok address := by
  obtain ⟨value, length⟩ := readDigits_bytesOf spells.reads 0
  rw [spells.length] at length
  simp only [ofText, parse, dropMarker_eq, length, value]
  simp [Except.map, Except.mapError]

theorem ofText_of_fault {fault : TextFault} (found : FaultIn (utf8 (unmarked text)) fault) :
    ofText text = .error (.addressText text fault) := by
  rw [← bytesOf_eq] at found
  simp only [ofText, parse, dropMarker_eq]
  generalize bytesOf (unmarked text) = bytes at found
  cases found with
  | oddLength odd =>
    rw [if_pos odd]
    rfl
  | wrongLength even other =>
    rw [if_neg (by omega), if_pos other]
    rfl
  | notADigit length digits foreign =>
    rw [if_neg (by omega), if_neg (not_ne_iff.mpr length), readDigits_of_foreign digits foreign,
      Nat.zero_add]
    rfl

/-- An address that is read is the one that the text spells. -/
theorem ofText_eq_ok_iff {address : Address} :
    ofText text = .ok address ↔ Spells (unmarked text) address := by
  refine ⟨?_, ofText_of_spells⟩
  intro read
  rcases spells_or_fault (unmarked text) with ⟨spelled, spells⟩ | ⟨fault, found⟩
  · rw [ofText_of_spells spells] at read
    obtain rfl := Except.ok.inj read
    exact spells
  · rw [ofText_of_fault found] at read
    cases read

/-- A text is refused for the fault that it has. -/
theorem ofText_eq_error_iff {error : Error} :
    ofText text = .error error ↔
      ∃ fault, FaultIn (utf8 (unmarked text)) fault ∧ error = .addressText text fault := by
  constructor
  · intro refused
    rcases spells_or_fault (unmarked text) with ⟨spelled, spells⟩ | ⟨fault, found⟩
    · rw [ofText_of_spells spells] at refused
      cases refused
    · rw [ofText_of_fault found] at refused
      exact ⟨fault, found, (Except.error.inj refused).symm⟩
  · rintro ⟨fault, found, rfl⟩
    exact ofText_of_fault found

end Reading

/-- A text is read as the address that it spells, or refused for the fault that it has. An address
is read back from its written form, which has the digits of every text that spells it in lower case.
So two texts are read as one address when they agree up to the marker and the case of digits. -/
theorem texts_by_grammar (text : String) :
    (∀ address, ofText text = .ok address ↔ Spells (unmarked text) address) ∧
      (∀ error, ofText text = .error error ↔
        ∃ fault, FaultIn (utf8 (unmarked text)) fault ∧ error = .addressText text fault) ∧
      (∀ address : Address, ofText address.render = .ok address) ∧
      ∀ address, ofText text = .ok address →
        address.render = String.ofList ('0' :: 'x' :: (unmarked text).map Char.toLower) ∧
          ∀ other second, ofText other = .ok second →
            (address = second ↔
              (unmarked text).map Char.toLower = (unmarked other).map Char.toLower) := by
  refine ⟨fun _ => ofText_eq_ok_iff, fun _ => ofText_eq_error_iff, ?_, ?_⟩
  · intro address
    rw [ofText, parse_render]
    rfl
  · intro address read
    have lower := (ofText_eq_ok_iff.mp read).digits_eq
    refine ⟨by rw [render, lower], ?_⟩
    intro other second readOther
    rw [← lower, ← (ofText_eq_ok_iff.mp readOther).digits_eq]
    constructor
    · rintro rfl
      rfl
    · intro same
      have written : address.render = second.render := by rw [render, render, same]
      have readBack := parse_render address
      rw [written, parse_render] at readBack
      exact (Except.ok.inj readBack).symm

/-- Digits of both cases behind a marker. -/
def markedText : String := "0x00000000000000000000000000000000DeadBEEF"

/-- The same digits in other cases, without a marker. -/
def bareText : String := "00000000000000000000000000000000dEADbeef"

/-- Forty bytes behind a marker, in thirty-nine characters. -/
def accentedText : String := "0x0000000000000000000000000000000000000é0"

/-- The marker and the case of digits do not matter, while a character of two bytes is refused at
the first of them. -/
theorem markedText_read :
    ofText markedText = .ok ⟨0xdeadbeef⟩ ∧ ofText bareText = .ok ⟨0xdeadbeef⟩ ∧
      (unmarked markedText).map Char.toLower = (unmarked bareText).map Char.toLower ∧
      ofText accentedText = .error (.addressText accentedText (.notADigit 0xc3 37)) := by
  obtain ⟨marked, _, _, alike⟩ := texts_by_grammar markedText
  obtain ⟨bare, _⟩ := texts_by_grammar bareText
  obtain ⟨_, refused, _⟩ := texts_by_grammar accentedText
  have first : ofText markedText = .ok ⟨0xdeadbeef⟩ :=
    (marked _).mpr ⟨List.all_iff_forall_prop.mp (by decide +kernel), by decide +kernel,
      by decide +kernel⟩
  have second : ofText bareText = .ok ⟨0xdeadbeef⟩ :=
    (bare _).mpr ⟨List.all_iff_forall_prop.mp (by decide +kernel), by decide +kernel,
      by decide +kernel⟩
  refine ⟨first, second, ((alike _ first).2 _ _ second).mp rfl, (refused _).mpr ⟨_, ?_, rfl⟩⟩
  have split : utf8 (unmarked accentedText) = .replicate 37 48 ++ 0xc3 :: [0xa9, 48] := by
    decide +kernel
  rw [split]
  exact .notADigit rfl (List.all_iff_forall_prop.mp (by decide)) (by decide)

end Address

end DoubleAuction
