import DoubleAuction.Json.Token

/-! # JSON values

A value is read from its tokens by a machine with a stack of open arrays and objects, so nesting may
be as deep as the text. It is written without blanks. Members of an object keep their order, and a
repeated member stays repeated: what that means is for the reader of the object to say.
-/

namespace DoubleAuction

/-- A JSON value. A string or number without a value (see `Json.Token`) has `none`. -/
inductive Json where
  | null
  | bool (value : Bool)
  | number (value : Option Nat)
  | string (text : Option String)
  | array (items : List Json)
  | object (members : List (Option String × Json))

namespace Json

/-- An open array or object, with what it holds so far, latest first, and where the next value
goes. -/
inductive Frame where
  | array (items : List Json)
  | object (members : List (Option String × Json)) (key : Option String)

/-- What may come next, inside the open frames. -/
inductive State where
  | value (stack : List Frame)
  | arrayStart (stack : List Frame)
  | objectStart (stack : List Frame)
  | key (members : List (Option String × Json)) (stack : List Frame)
  | colon (members : List (Option String × Json)) (key : Option String) (stack : List Frame)
  | afterItem (items : List Json) (stack : List Frame)
  | afterMember (members : List (Option String × Json)) (stack : List Frame)
  | done (value : Json)

/-- The state behind a whole value. -/
def State.complete (json : Json) : List Frame → State
  | [] => .done json
  | .array items :: stack => .afterItem (json :: items) stack
  | .object members name :: stack => .afterMember ((name, json) :: members) stack

/-- The state behind the first token of a value. -/
def State.begin? (stack : List Frame) : Token → Option State
  | .null => some (complete .null stack)
  | .bool b => some (complete (.bool b) stack)
  | .number n => some (complete (.number n) stack)
  | .string text => some (complete (.string text) stack)
  | .openArray => some (.arrayStart stack)
  | .openObject => some (.objectStart stack)
  | .closeArray | .closeObject | .colon | .comma => none

/-- The state behind a token, if it may come. -/
def State.next? : State → Token → Option State
  | .value stack, token => begin? stack token
  | .arrayStart stack, .closeArray => some (complete (.array []) stack)
  | .arrayStart stack, token => begin? (.array [] :: stack) token
  | .objectStart stack, .closeObject => some (complete (.object []) stack)
  | .objectStart stack, .string name => some (.colon [] name stack)
  | .key members stack, .string name => some (.colon members name stack)
  | .colon members name stack, .colon => some (.value (.object members name :: stack))
  | .afterItem items stack, .comma => some (.value (.array items :: stack))
  | .afterItem items stack, .closeArray => some (complete (.array items.reverse) stack)
  | .afterMember members stack, .comma => some (.key members stack)
  | .afterMember members stack, .closeObject => some (complete (.object members.reverse) stack)
  | _, _ => none

/-- Reads the rest of a text from a state on. -/
def readFrom? (state : State) (text : List Char) : Option Json :=
  match blanks : text.dropWhile Text.isBlank with
  | [] =>
    match state with
    | .done value => some value
    | _ => none
  | c :: rest =>
    match read : nextToken? (c :: rest) with
    | none => none
    | some (token, rest') =>
      have : rest'.length < text.length :=
        Nat.lt_of_lt_of_le (length_nextToken? read)
          (blanks ▸ (List.dropWhile_sublist Text.isBlank).length_le)
      match state.next? token with
      | none => none
      | some state => readFrom? state rest'
termination_by text.length

/-- The value that a text spells, if it spells exactly one. -/
def read? (text : String) : Option Json := readFrom? (.value []) text.toList

/-- The tokens of a value. -/
def tokens : Json → List Token
  | .null => [.null]
  | .bool value => [.bool value]
  | .number value => [.number value]
  | .string text => [.string text]
  | .array items => .openArray :: itemTokens items ++ [.closeArray]
  | .object members => .openObject :: memberTokens members ++ [.closeObject]
where
  /-- Items with commas between them. -/
  itemTokens : List Json → List Token
    | [] => []
    | [item] => item.tokens
    | item :: rest => item.tokens ++ .comma :: itemTokens rest
  /-- Members with commas between them. -/
  memberTokens : List (Option String × Json) → List Token
    | [] => []
    | [(key, value)] => .string key :: .colon :: value.tokens
    | (key, value) :: rest => .string key :: .colon :: value.tokens ++ .comma :: memberTokens rest

/-- A value without blanks. -/
def render (value : Json) : String := String.ofList (value.tokens.flatMap Token.text)

end Json

end DoubleAuction
