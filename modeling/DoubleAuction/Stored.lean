import DoubleAuction.Address.Map
import DoubleAuction.Error
import DoubleAuction.Json.Record
import DoubleAuction.Ledger

/-! # Stored forms

Everything a market needs to continue after a pause has a stored form in JSON. Whole numbers are
plain numbers, whatever their size; addresses and order keys are strings in hexadecimal. Objects are
written with their members in byte order of their names, so equal values have equal texts. Reading
checks the width of numbers and nothing beyond: a stored heap may be out of order.
-/

namespace DoubleAuction

/-- Values with a stored form. -/
class Stored (α : Type) where
  toJson : α → Json
  ofJson? : Json → Option α

namespace Stored

open Json (ofMembers)

/-- The stored text of a value. -/
def toText {α : Type} [Stored α] (value : α) : String := (toJson value).render

/-- The value of a stored text. -/
def ofText? (α : Type) [Stored α] (text : String) : Option α := (Json.read? text).bind ofJson?

/-- The value of a field that must be there. -/
def required? {α : Type} [Stored α] (field : Option Json) : Option α := field.bind ofJson?

/-- The value of a field that has a default. -/
def withDefault? {α : Type} [Stored α] (default : α) : Option Json → Option α
  | none => some default
  | some json => ofJson? json

/-- The value of a field that may be missing or `null`. -/
def optional? {α : Type} [Stored α] : Option Json → Option (Option α)
  | none | some .null => some none
  | some json => (ofJson? json).map some

instance {α : Type} [Stored α] : Stored (List α) where
  toJson values := .array (values.map toJson)
  ofJson? json := json.items?.bind fun items => items.mapM ofJson?

/-- An absent value is `null`. -/
def ofOption {α : Type} [Stored α] : Option α → Json
  | none => .null
  | some value => toJson value

instance : Stored Bool where
  toJson := .bool
  ofJson?
    | .bool value => some value
    | _ => none

/-- A natural number below a limit. -/
def natural? (limit : Nat) (json : Json) : Option Nat :=
  json.natural?.filter (· < limit)

instance : Stored UInt8 where
  toJson value := .number (some value.toNat)
  ofJson? json := (natural? UInt8.size json).map .ofNat

instance : Stored UInt32 where
  toJson value := .number (some value.toNat)
  ofJson? json := (natural? UInt32.size json).map .ofNat

instance : Stored UInt64 where
  toJson value := .number (some value.toNat)
  ofJson? json := (natural? UInt64.size json).map .ofNat

instance : Stored Amount where
  toJson value := .number (some value.toNat)
  ofJson? json := (natural? Amount.size json).map (.ofNat 128)

instance : Stored Address where
  toJson address := .string (some address.render)
  ofJson? json := json.text?.bind fun text => (Address.parse text).toOption

/-- A word is read from at most sixty-four characters, with or without the marker. -/
instance : Stored Word where
  toJson word := .string (some ("0x" ++ Hex.shortest word.toNat))
  ofJson? json := json.text?.bind fun text =>
    let digits := Address.dropMarker text.toList
    if 0 < digits.length ∧ digits.length ≤ 64 then (Hex.readSpaced? digits).map (.ofNat 256)
    else none

/-- A map is an object whose names are addresses; of two members for one address the later
counts. -/
instance {α : Type} [Stored α] : Stored (AddressMap α) where
  toJson map := ofMembers (map.entries.map fun entry => (entry.1.render, toJson entry.2))
  ofJson? json := do
    let members ← json.members?
    let entries ← members.mapM fun member => do
      return (← (Address.parse member.1).toOption, ← ofJson? member.2)
    return .ofList entries

end Stored

end DoubleAuction
