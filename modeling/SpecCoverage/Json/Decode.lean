-- SUMMARY: Taking JSON values apart by kind and by the fields of a record.
import SpecCoverage.Json.Basic
import SpecCoverage.Order.SortedMap
import SpecCoverage.Text.Ascii

/-!
# Decoding

A record may be written as an object, whose members are found by name under any of their spellings,
or as an array of its fields in their order. Members of other names are passed over, a field given
twice is refused.
-/
namespace SpecCoverage.Json

open Text

def asBool? : Json → Option Bool
  | .bool b => some b
  | _ => none

def asText? : Json → Option String
  | .string text? => text?
  | _ => none

/-- Lines and counts are below this. -/
def wordLimit : Nat := Nat.pow 2 64

/-- A number written with digits alone, below `wordLimit`. -/
def asCount? : Json → Option Nat
  | .number lexeme =>
    let s := lexeme.toList
    if s.all isAsciiDigit && decimalValue s < wordLimit then some (decimalValue s) else none
  | _ => none

/-- All items of an array, each decoded. -/
def asList? {α : Type} (item? : Json → Option α) : Json → Option (List α)
  | .array items => items.mapM item?
  | _ => none

/-- `null` stands for nothing. -/
def asOptional? {α : Type} (value? : Json → Option α) : Json → Option (Option α)
  | .null => some none
  | v => (value? v).map some

/-- The members of an object, each with a name that has a text and a decoded value. -/
def namedMembers? {α : Type} (value? : Json → Option α) (members : List (Option String × Json)) :
    Option (List (String × α)) :=
  members.mapM fun m => m.1.bind fun name => (value? m.2).map fun v => (name, v)

/-- The members of an object by name, each decoded; the last of a name holds. -/
def asMap? {α : Type} (value? : Json → Option α) : Json → Option (SortedMap String α)
  | .object members => (namedMembers? value? members).map SortedMap.ofList
  | _ => none

-- ---------------------------------------------------------------------------
-- Records
-- ---------------------------------------------------------------------------

/-- The spellings of a field's name. -/
abbrev Spellings := List String

/-- The values of a field among members, at most one of which may have it. -/
def memberOf? (spellings : Spellings) (members : List (String × Json)) : Option (Option Json) :=
  match members.filter fun m => m.1 ∈ spellings with
  | [] => some none
  | [m] => some (some m.2)
  | _ => none

/-- The values of the fields of a record; a field that is not given has none. -/
def fields? (schema : List Spellings) : Json → Option (List (Option Json))
  | .object members => do
    let named ← namedMembers? some members
    schema.mapM fun spellings => memberOf? spellings named
  | .array items =>
    if items.length ≤ schema.length then
      some (items.map some ++ List.replicate (schema.length - items.length) none)
    else none
  | _ => none

/-- A field that has to be given. -/
def required? {α : Type} (value? : Json → Option α) (field : Option Json) : Option α :=
  field.bind value?

/-- A field with a default. -/
def defaulted? {α : Type} (default : α) (value? : Json → Option α) : Option Json → Option α
  | none => some default
  | some v => value? v

end SpecCoverage.Json
