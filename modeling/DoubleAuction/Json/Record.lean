import DoubleAuction.Json

/-! # Records in JSON

A record is an object with a member for each field, in any order. Members that are no fields are
passed over whatever their value is; a repeated field makes the record unreadable. A record may also
be written as an array of its fields in their order.
-/

namespace DoubleAuction.Json

/-- The text of a string. -/
def text? : Json → Option String
  | .string text => text
  | _ => none

/-- The value of a plain natural number. -/
def natural? : Json → Option Nat
  | .number value => value
  | _ => none

/-- The items of an array. -/
def items? : Json → Option (List Json)
  | .array items => some items
  | _ => none

/-- The members of an object, if all their names are texts. -/
def members? : Json → Option (List (String × Json))
  | .object members => members.mapM fun member => member.1.map fun name => (name, member.2)
  | _ => none

/-- An object with the given members. -/
def ofMembers (members : List (String × Json)) : Json :=
  .object (members.map fun member => (some member.1, member.2))

/-- The value of a field, or none when the field is missing; a repeated field has no reading. -/
def field? (members : List (String × Json)) (name : String) : Option (Option Json) :=
  match members.filter fun member => member.1 = name with
  | [] => some none
  | [member] => some (some member.2)
  | _ => none

/-- The fields of a record in the order of their names. As an array it has all of them. -/
def record? (names : List String) (json : Json) : Option (List (Option Json)) :=
  match json with
  | .array items => if items.length = names.length then some (items.map some) else none
  | _ => json.members?.bind fun members => names.mapM (field? members)

/-- The fields of a record of which, as an array, the last may be left out. -/
def partialRecord? (names : List String) (json : Json) : Option (List (Option Json)) :=
  match json with
  | .array items =>
    if items.length ≤ names.length then
      some (items.map some ++ List.replicate (names.length - items.length) none)
    else none
  | _ => json.record? names

/-- The name of a variant and what it carries. A variant stands alone, or is the only member of an
object. -/
def variant? : Json → Option (String × Option Json)
  | .string text => text.map fun name => (name, none)
  | .object [(name, payload)] => name.map fun name => (name, some payload)
  | _ => none

/-- The name of a variant that carries nothing, which an object may say with `null`. -/
def plainVariant? (json : Json) : Option String :=
  match json.variant? with
  | some (name, none) => some name
  | some (name, some .null) => some name
  | _ => none

end DoubleAuction.Json
