-- SUMMARY: Finding the test declarations of a source text and the scenarios they belong to.
import SpecCoverage.Declaration.Basic
import SpecCoverage.Declaration.Pattern
import SpecCoverage.Order.SortedMap
import SpecCoverage.Spelling
import SpecCoverage.Text.Line

/-!
# Scanning for test declarations

What a line declares depends on itself and the five lines before it alone (`declaredOn`): a test
attribute may stand up to five lines above a function, an annotation up to three lines above a
method.
-/
namespace SpecCoverage.Declaration

open Text

/-- How far above a function its test attribute may stand. -/
def attributeReach : Nat := 5

/-- How far above a method its annotation may stand. -/
def annotationReach : Nat := 3

/-- The method on a line that an annotation above it may belong to. Blank lines and further
annotations have none. -/
def method? (line : List Char) : Option (List Char) :=
  if line.isEmpty || startsWith ['@'] line || startsWith ['['] line then none
  else Pattern.signature? line

/-- What a line means for the lines below it. -/
structure Standing where
  isAnnotation : Bool
  hasMethod : Bool
  hasAttribute : Bool

def Standing.ofLine (line : List Char) : Standing where
  isAnnotation := Pattern.isAnnotation line
  hasMethod := (method? line).isSome
  hasAttribute := Pattern.isAttribute line

/-- Is there an annotation among the first `n` of the lines, nearest first, with no method after
it? -/
def annotatedWithin : Nat → List Standing → Bool
  | 0, _ => false
  | _ + 1, [] => false
  | n + 1, line :: above => line.isAnnotation || (!line.hasMethod && annotatedWithin n above)

/-- What a line declares, given what the lines above it mean, nearest first. -/
def declaredOn (above : List Standing) (line : List Char) : SortedSet Declared :=
  let declared (style : DeclarationStyle) (name? : Option (List Char)) : List Declared :=
    (name?.map fun n => ⟨String.ofList n, style⟩).toList
  .ofList <|
    declared .testCase (Pattern.find? Pattern.testCase line) ++
    declared .annotated (if annotatedWithin annotationReach above then method? line else none) ++
    declared .attribute
      (if Pattern.isAttribute line || (above.take attributeReach).any (·.hasAttribute) then
        Pattern.find? Pattern.function line
      else none) ++
    declared .convention (Pattern.find? Pattern.testFunction line) ++
    declared .voidFunction (Pattern.find? Pattern.voidFunction line)

/-- Scan the lines from line `n` on. `found` holds what was found before, last first. -/
def scanFrom (found : List Declaration) (above : List Standing) (n : Nat) :
    List (List Char) → List Declaration
  | [] => found.reverse
  | line :: rest =>
    let here := (declaredOn above line).toList.map fun d => (⟨n, d⟩ : Declaration)
    scanFrom (here.reverse ++ found) ((.ofLine line :: above).take attributeReach) (n + 1) rest

/-- The declarations of a text, by line, name and style. -/
def scan (text : String) : List Declaration :=
  scanFrom [] [] 1 (trimmedLines text.toList)

-- ---------------------------------------------------------------------------
-- Matching scenarios
-- ---------------------------------------------------------------------------

/-- A scenario and the reduced forms of its spellings. -/
structure Sought where
  scenario : String
  forms : List (List Char)

/-- Is the scenario still without a line, and the method of this reduced form its own? -/
def Sought.takes (lines : SortedMap String Nat) (method : List Char) (s : Sought) : Bool :=
  !method.isEmpty && s.forms.contains method && !lines.contains s.scenario

/-- Give the line of a declaration to the first scenario it fits that has none yet. -/
def assign (sought : List Sought) (lines : SortedMap String Nat) (d : Declaration) :
    SortedMap String Nat :=
  match sought.find? (·.takes lines (Spelling.reduce d.declared.name.toList)) with
  | some s => lines.insert s.scenario d.line
  | none => lines

/-- The line of the test of each scenario for which the text has one. -/
def linesFor (scenarios : List String) (text : String) : SortedMap String Nat :=
  let sought := scenarios.map fun s => (⟨s, Spelling.reducedForms s⟩ : Sought)
  (scan text).foldl (assign sought) ∅

theorem Sought.takes_reducedForms (lines : SortedMap String Nat) (method scenario : String) :
    Sought.takes lines (Spelling.reduce method.toList) ⟨scenario, Spelling.reducedForms scenario⟩ =
      (Spelling.fits method scenario && !lines.contains scenario) :=
  rfl

end SpecCoverage.Declaration
