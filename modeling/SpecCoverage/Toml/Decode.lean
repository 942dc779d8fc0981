-- SUMMARY: Taking TOML values apart by kind and by the fields of a section.
import SpecCoverage.Order.SortedMap
import SpecCoverage.Toml.Basic

/-!
# Decoding

A section is a table that holds no other keys than those of its fields, or an array of its fields in
their order. A field that is not given keeps its default.
-/
namespace SpecCoverage.Toml

def asText? : Toml → Option String
  | .text s => some s
  | _ => none

def asFlag? : Toml → Option Bool
  | .flag b => some b
  | _ => none

/-- All items of an array, each decoded. -/
def asList? {α : Type} (item? : Toml → Option α) : Toml → Option (List α)
  | .array items => items.mapM item?
  | .tables items => items.reverse.mapM fun entries => item? (.table .header entries)
  | _ => none

/-- The key under which the text of a moment stands where a table is wanted. -/
def momentKey : String := "$__toml_private_datetime"

/-- The entries of a table by key, each decoded. A moment stands for a table with one entry. -/
def asMap? {α : Type} (value? : Toml → Option α) : Toml → Option (SortedMap String α)
  | .table _ entries =>
    (entries.mapM fun e : String × Toml => (value? e.2).map fun a => (e.1, a)).map SortedMap.ofList
  | .moment m => (value? (.text m.text)).map fun a => .ofList [(momentKey, a)]
  | _ => none

/-- Does a value hold nothing? -/
def isEmpty : Toml → Bool
  | .array [] | .table _ [] => true
  | _ => false

/-- The name of a choice: written as a text, or as the only key of a table with nothing under it. -/
def asChoice? : Toml → Option String
  | .text s => some s
  | .table _ [(name, v)] => if v.isEmpty then some name else none
  | _ => none

/-- The values of the fields of a section; a field that is not given has none. -/
def fields? (schema : List String) : Toml → Option (List (Option Toml))
  | .table _ entries =>
    if entries.all fun e => e.1 ∈ schema then some (schema.map fun name => entries.lookup name)
    else none
  | .array items =>
    some ((items.take schema.length).map some ++
      List.replicate (schema.length - items.length) none)
  | .tables items =>
    let items := items.reverse.take schema.length
    some (items.map (fun entries => some (.table .header entries)) ++
      List.replicate (schema.length - items.length) none)
  | _ => none

/-- A field with a default. -/
def defaulted? {α : Type} (default : α) (value? : Toml → Option α) : Option Toml → Option α
  | none => some default
  | some v => value? v

end SpecCoverage.Toml
