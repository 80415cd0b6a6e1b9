import DoubleAuction.Json
import DoubleAuction.Proofs.Json.Tokens

/-! # Values read back

Every value is read back from its text (`Json.read?_render`). The reader is followed through the
text of a value inside any open frames: from a state in which a value may come it arrives at the
state behind that value (`Read`), by induction on the value.
-/

namespace DoubleAuction.Json

/-- Induction over values, with every item and every member below its array or object. -/
theorem nested {motive : Json → Prop} (null : motive .null) (bool : ∀ value, motive (.bool value))
    (number : ∀ value, motive (.number value)) (string : ∀ text, motive (.string text))
    (array : ∀ items, (∀ item ∈ items, motive item) → motive (.array items))
    (object : ∀ members, (∀ member ∈ members, motive member.2) → motive (.object members))
    (json : Json) : motive json := by
  refine Json.rec (motive_1 := motive) (motive_2 := fun items => ∀ item ∈ items, motive item)
    (motive_3 := fun members => ∀ member ∈ members, motive member.2)
    (motive_4 := fun member => motive member.2) null bool number string array object ?_ ?_ ?_ ?_ ?_
    json
  · rintro _ ⟨⟩
  · intro first rest here later item member
    rcases List.mem_cons.mp member with rfl | there
    · exact here
    · exact later item there
  · rintro _ ⟨⟩
  · intro first rest here later item member
    rcases List.mem_cons.mp member with rfl | there
    · exact here
    · exact later item there
  · exact fun _ _ here => here

/-- The text of a list of tokens. -/
def textOf (tokens : List Token) : List Char := tokens.flatMap Token.text

@[simp] theorem textOf_nil : textOf [] = [] := rfl

@[simp] theorem textOf_cons (token : Token) (tokens : List Token) :
    textOf (token :: tokens) = token.text ++ textOf tokens := List.flatMap_cons

@[simp] theorem textOf_append (left right : List Token) :
    textOf (left ++ right) = textOf left ++ textOf right := List.flatMap_append

/-- No token begins with a blank. -/
theorem nextToken?_of_isBlank {c : Char} (blank : Text.isBlank c = true) (rest : List Char) :
    nextToken? (c :: rest) = none := by
  simp only [Text.isBlank, Bool.or_eq_true, decide_eq_true_eq] at blank
  rcases blank with ((rfl | rfl) | rfl) | rfl <;> rfl

/-- The reader takes one written token at a time. -/
theorem readFrom?_text (state : State) (token : Token) {rest : List Char}
    (ends : ∀ value, token = .number value → EndsValue rest) :
    readFrom? state (token.text ++ rest) =
      (state.next? token).bind fun next => readFrom? next rest := by
  have read := nextToken?_text token ends
  generalize token.text ++ rest = text at read ⊢
  have blanks : text.dropWhile Text.isBlank = text := by
    cases text with
    | nil => rfl
    | cons c later =>
      cases blank : Text.isBlank c with
      | false => rw [List.dropWhile_cons_of_neg (by simp [blank])]
      | true =>
        rw [nextToken?_of_isBlank blank] at read
        cases read
  rw [readFrom?.eq_def]
  split
  case h_1 empty =>
    rw [blanks] at empty
    subst empty
    cases read
  case h_2 c later same =>
    have here : nextToken? (c :: later) = some (token, rest) := by rwa [← same, blanks]
    split
    case h_1 none =>
      rw [here] at none
      cases none
    case h_2 found =>
      rw [here] at found
      cases found
      cases state.next? token <;> rfl

/-- A state in which a value may come that goes into the open frames. -/
def State.Opens (state : State) (stack : List Frame) : Prop :=
  ∀ token, token ≠ .closeArray → state.next? token = begin? stack token

/-- The reader gets through the text of a value, wherever the value may come. -/
def Read (json : Json) : Prop :=
  ∀ {state : State} {stack : List Frame} {rest : List Char}, state.Opens stack → EndsValue rest →
    readFrom? state (textOf json.tokens ++ rest) = readFrom? (.complete json stack) rest

theorem opens_value (stack : List Frame) : (State.value stack).Opens stack := fun _ _ => rfl

theorem opens_arrayStart (stack : List Frame) :
    (State.arrayStart stack).Opens (.array [] :: stack) := by
  intro token ne
  cases token <;> first | rfl | exact absurd rfl ne

theorem endsValue_comma (rest : List Char) : EndsValue (Token.comma.text ++ rest) :=
  fun _ same => .inl (Option.some.inj same).symm

theorem endsValue_closeArray (rest : List Char) : EndsValue (Token.closeArray.text ++ rest) :=
  fun _ same => .inr (.inl (Option.some.inj same).symm)

theorem endsValue_closeObject (rest : List Char) : EndsValue (Token.closeObject.text ++ rest) :=
  fun _ same => .inr (.inr (Option.some.inj same).symm)

/-- A value with one token is read with it. -/
theorem read_single {json : Json} {token : Token} (single : json.tokens = [token])
    (value : ∀ stack, State.begin? stack token = some (.complete json stack)) : Read json := by
  intro state stack rest opens ends
  have open? : token ≠ .closeArray := by
    rintro rfl
    cases value stack
  rw [single, textOf_cons, textOf_nil, List.append_nil,
    readFrom?_text state token fun _ _ => ends, opens token open?, value]
  rfl

section Nested

variable {stack : List Frame} {rest : List Char}

/-- Punctuation says itself where it ends. -/
theorem readFrom?_mark {state next : State} {token : Token} (mark : ∀ value, token ≠ .number value)
    (moves : state.next? token = some next) :
    readFrom? state (token.text ++ rest) = readFrom? next rest := by
  rw [readFrom?_text state token fun value same => absurd same (mark value), moves,
    Option.bind_some]

/-- The reader gets through the items of an array, with the first of them in a state that may be the
start of the array. -/
theorem readFrom?_items {first : Json} {items : List Json}
    (read : ∀ item ∈ first :: items, Read item) {state : State} {before : List Json}
    (opens : state.Opens (.array before :: stack)) :
    readFrom? state (textOf (tokens.itemTokens (first :: items)) ++
        (Token.closeArray.text ++ rest)) =
      readFrom? (.complete (.array (before.reverse ++ first :: items)) stack) rest := by
  -- Every item moves from the text into the open frame, which holds the items in reverse.
  induction items generalizing first state before with
  | nil =>
    have closes : (State.complete first (.array before :: stack)).next? .closeArray =
        some (.complete (.array (first :: before).reverse) stack) := rfl
    rw [tokens.itemTokens, read first List.mem_cons_self opens (endsValue_closeArray rest),
      readFrom?_mark (fun _ => Token.noConfusion) closes, List.reverse_cons]
  | cons second items ih =>
    have continues : (State.complete first (.array before :: stack)).next? .comma =
        some (.value (.array (first :: before) :: stack)) := rfl
    have later := ih (fun item member => read item (List.mem_cons_of_mem _ member))
      (opens_value (.array (first :: before) :: stack))
    have parts : tokens.itemTokens (first :: second :: items) =
        first.tokens ++ .comma :: tokens.itemTokens (second :: items) := rfl
    rw [parts, textOf_append, textOf_cons, List.append_assoc, List.append_assoc,
      read first List.mem_cons_self opens (endsValue_comma _),
      readFrom?_mark (fun _ => Token.noConfusion) continues, later, List.reverse_cons,
      List.append_assoc, List.singleton_append]

/-- A state in which a name may come, behind some members of an open object. -/
def State.OpensName (state : State) (members : List (Option String × Json)) (stack : List Frame) :
    Prop :=
  ∀ name, state.next? (.string name) = some (.colon members name stack)

theorem opensName_objectStart (stack : List Frame) : (State.objectStart stack).OpensName [] stack :=
  fun _ => rfl

theorem opensName_key (members : List (Option String × Json)) (stack : List Frame) :
    (State.key members stack).OpensName members stack := fun _ => rfl

/-- The reader gets through the members of an object. -/
theorem readFrom?_members {first : Option String × Json} {members : List (Option String × Json)}
    (read : ∀ member ∈ first :: members, Read member.2) {state : State}
    {before : List (Option String × Json)} (opens : state.OpensName before stack) :
    readFrom? state (textOf (tokens.memberTokens (first :: members)) ++
        (Token.closeObject.text ++ rest)) =
      readFrom? (.complete (.object (before.reverse ++ first :: members)) stack) rest := by
  obtain ⟨name, json⟩ := first
  induction members generalizing name json state before with
  | nil =>
    have colon : (State.colon before name stack).next? .colon =
        some (.value (.object before name :: stack)) := rfl
    have closes : (State.complete json (.object before name :: stack)).next? .closeObject =
        some (.complete (.object ((name, json) :: before).reverse) stack) := rfl
    rw [tokens.memberTokens, textOf_cons, textOf_cons, List.append_assoc, List.append_assoc,
      readFrom?_mark (fun _ => Token.noConfusion) (opens name),
      readFrom?_mark (fun _ => Token.noConfusion) colon,
      read (name, json) List.mem_cons_self (opens_value _) (endsValue_closeObject rest),
      readFrom?_mark (fun _ => Token.noConfusion) closes, List.reverse_cons]
  | cons second members ih =>
    have colon : (State.colon before name stack).next? .colon =
        some (.value (.object before name :: stack)) := rfl
    have continues : (State.complete json (.object before name :: stack)).next? .comma =
        some (.key ((name, json) :: before) stack) := rfl
    have later := ih (opensName_key ((name, json) :: before) stack) second.1 second.2
      fun member inside => read member (List.mem_cons_of_mem _ inside)
    have parts : tokens.memberTokens ((name, json) :: second :: members) = .string name ::
        .colon :: json.tokens ++ .comma :: tokens.memberTokens (second :: members) := rfl
    rw [parts, List.cons_append, List.cons_append, textOf_cons, textOf_cons, textOf_append,
      textOf_cons, List.append_assoc, List.append_assoc, List.append_assoc, List.append_assoc,
      readFrom?_mark (fun _ => Token.noConfusion) (opens name),
      readFrom?_mark (fun _ => Token.noConfusion) colon,
      read (name, json) List.mem_cons_self (opens_value _) (endsValue_comma _),
      readFrom?_mark (fun _ => Token.noConfusion) continues, later, List.reverse_cons,
      List.append_assoc, List.singleton_append]

end Nested

/-- The reader gets through the text of every value. -/
theorem read (json : Json) : Read json := by
  induction json using nested with
  | null => exact read_single rfl fun _ => rfl
  | bool value => exact read_single rfl fun _ => rfl
  | number value => exact read_single rfl fun _ => rfl
  | string text => exact read_single rfl fun _ => rfl
  | array items ih =>
    intro state stack rest opens _
    have open? : state.next? .openArray = some (.arrayStart stack) := opens _ Token.noConfusion
    rw [tokens, textOf_append, textOf_cons, textOf_cons, textOf_nil, List.append_nil,
      List.append_assoc, List.append_assoc, readFrom?_mark (fun _ => Token.noConfusion) open?]
    cases items with
    | nil => exact readFrom?_mark (fun _ => Token.noConfusion) rfl
    | cons first items => exact readFrom?_items ih (opens_arrayStart stack)
  | object members ih =>
    intro state stack rest opens _
    have open? : state.next? .openObject = some (.objectStart stack) := opens _ Token.noConfusion
    rw [tokens, textOf_append, textOf_cons, textOf_cons, textOf_nil, List.append_nil,
      List.append_assoc, List.append_assoc, readFrom?_mark (fun _ => Token.noConfusion) open?]
    cases members with
    | nil => exact readFrom?_mark (fun _ => Token.noConfusion) rfl
    | cons first members => exact readFrom?_members ih (opensName_objectStart stack)

/-- Every value is read back from its text. -/
theorem read?_render (json : Json) : read? json.render = some json := by
  have through := read json (opens_value []) .nil
  rw [List.append_nil] at through
  have finished : readFrom? (.done json) [] = some json := by
    rw [readFrom?.eq_def]
    rfl
  rw [read?, render, String.toList_ofList]
  exact through.trans finished

end DoubleAuction.Json
