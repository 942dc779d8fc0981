-- SUMMARY: Growing the tables of a TOML document by values, headers and dotted keys.
import SpecCoverage.Toml.Basic

/-!
# Tables

A document is built by three operations on its root table: `assign?` gives a value to a key,
`openTable?` names a table by a header, `openItem?` adds a table under a header in double brackets.
Each refuses what a document may say only once.
-/
namespace SpecCoverage.Toml

/-- The entries of a table, last first. -/
abbrev Entries := List (String × Toml)

/-- Give the entry of a name another value. -/
def setEntry (name : String) (value : Toml) : Entries → Entries
  | [] => [(name, value)]
  | e :: es => if e.1 = name then (name, value) :: es else e :: setEntry name value es

/-- A table with its origin. -/
structure Table where
  origin : Origin
  entries : Entries

def Table.toml (t : Table) : Toml := .table t.origin t.entries

/-- An empty document. -/
def Table.root : Table := ⟨.header, []⟩

/-- Change the table at the end of a path. Tables that are missing on the way are made with origin
`made`; the last one counts of those under repeated headers. Inline tables are closed, and so are
the tables that headers name while dotted keys lead the way. -/
def alterAt? (made : Origin) (change : Table → Option Table) : List String → Table → Option Table
  | [], t => change t
  | name :: path, t =>
    match t.entries.lookup name with
    | none => do
      let inner ← alterAt? made change path ⟨made, []⟩
      return { t with entries := setEntry name inner.toml t.entries }
    | some (.table origin entries) =>
      if origin = .inline || (made = .dotted && origin = .header) then none
      else do
        let inner ← alterAt? made change path ⟨origin, entries⟩
        return { t with entries := setEntry name inner.toml t.entries }
    | some (.tables []) => none
    | some (.tables (entries :: items)) => do
      let inner ← alterAt? made change path ⟨.header, entries⟩
      return { t with entries := setEntry name (.tables (inner.entries :: items)) t.entries }
    | some _ => none

/-- Give a value to a key. Dotted keys end in a table that dotted keys made, and each key has one
value. -/
def assign? (path : List String) (name : String) (value : Toml) (t : Table) : Option Table :=
  alterAt? .dotted
    (fun t =>
      if (t.origin == .dotted) == path.isEmpty || (t.entries.lookup name).isSome then none
      else some { t with entries := (name, value) :: t.entries })
    path t

/-- Name a table by a header. -/
def openTable? (path : List String) (name : String) (t : Table) : Option Table :=
  alterAt? .implied
    (fun t =>
      match t.entries.lookup name with
      | none => some { t with entries := (name, .table .header []) :: t.entries }
      | some (.table .implied entries) =>
        some { t with entries := setEntry name (.table .header entries) t.entries }
      | some _ => none)
    path t

/-- Add a table under a header in double brackets. -/
def openItem? (path : List String) (name : String) (t : Table) : Option Table :=
  alterAt? .implied
    (fun t =>
      match t.entries.lookup name with
      | none => some { t with entries := (name, .tables [[]]) :: t.entries }
      | some (.tables items) =>
        some { t with entries := setEntry name (.tables ([] :: items)) t.entries }
      | some _ => none)
    path t

/-- Give a value to a key of the table that a header named. -/
def assignUnder? (header : List String) (path : List String) (name : String) (value : Toml)
    (t : Table) : Option Table :=
  alterAt? .implied (assign? path name value) header t

end SpecCoverage.Toml
