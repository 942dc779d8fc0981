-- SUMMARY: Letters, digits and word characters of any script.
import SpecCoverage.Text.Ascii
import SpecCoverage.Text.CharacterTables

/-!
# Character classes

The classes go by Unicode properties, so a letter of any script counts as one.
-/
namespace SpecCoverage.Text

/-- Does a range of the stretch from `low` up to `high` of an increasing table hold `n`? -/
def inStretch (table : Array (Nat × Nat)) (n low high : Nat) : Bool :=
  if low < high then
    let middle := (low + high) / 2
    match table[middle]? with
    | none => false
    | some (first, last) =>
      if n < first then inStretch table n low middle
      else if last < n then inStretch table n (middle + 1) high
      else true
  else false
termination_by high - low

/-- Does a range of an increasing table hold the code point of a character? -/
def inTable (table : Array (Nat × Nat)) (c : Char) : Bool :=
  inStretch table c.toNat 0 table.size

def alphanumericTable : Array (Nat × Nat) := alphanumericRanges.toArray

def wordTable : Array (Nat × Nat) := wordRanges.toArray

def casedTable : Array (Nat × Nat) := casedRanges.toArray

def caseIgnorableTable : Array (Nat × Nat) := caseIgnorableRanges.toArray

/-- Letters and numbers of any script. -/
def isAlphanumeric (c : Char) : Bool :=
  if c.toNat < 0x80 then isAsciiAlphanumeric c else inTable alphanumericTable c

/-- The characters between which there is no word boundary. -/
def isWordChar (c : Char) : Bool :=
  if c.toNat < 0x80 then isAsciiAlphanumeric c || c == '_' else inTable wordTable c

/-- Characters that have case. -/
def isCased (c : Char) : Bool :=
  inTable casedTable c

/-- Characters that are looked through when the letters around a sigma are judged. -/
def isCaseIgnorable (c : Char) : Bool :=
  inTable caseIgnorableTable c

end SpecCoverage.Text
