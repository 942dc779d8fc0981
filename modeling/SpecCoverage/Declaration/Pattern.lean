-- SUMMARY: Recognizing the openings of test declarations within one line.
import SpecCoverage.Text.Blank
import SpecCoverage.Text.Character
import SpecCoverage.Text.Cut

/-!
# Patterns within a line

A pattern is tried at every position of a line from left to right, and the first position at which
it fits gives the name. It sees the character before the position, for word boundaries, and what
follows. Names are ASCII identifiers, blanks and word boundaries go by Unicode.
-/
namespace SpecCoverage.Pattern

open Text

/-- What a pattern finds after the character before it. -/
abbrev Probe := Option Char → List Char → Option (List Char)

/-- The name at the first position where the probe fits. -/
def firstFit (p : Probe) : Probe
  | before, [] => p before []
  | before, c :: s =>
    match p before (c :: s) with
    | some name => some name
    | none => firstFit p (some c) s

/-- The name at the first position of a line. -/
def find? (p : Probe) (line : List Char) : Option (List Char) :=
  firstFit p none line

-- ---------------------------------------------------------------------------
-- Pieces of patterns
-- ---------------------------------------------------------------------------

def isNameStart (c : Char) : Bool :=
  isAsciiUpper c || isAsciiLower c || c == '_'

def isNameChar (c : Char) : Bool :=
  isAsciiAlphanumeric c || c == '_'

/-- The longest identifier at the front and what follows it. -/
def identifier? : List Char → Option (List Char × List Char)
  | [] => none
  | c :: s =>
    if isNameStart c then some (c :: s.takeWhile isNameChar, s.dropWhile isNameChar) else none

/-- Blanks, at least one of them. -/
def blanks? : List Char → Option (List Char)
  | [] => none
  | c :: s => if isBlank c then some (trimStart s) else none

/-- Is the next character after any blanks one of `marks`? -/
def opens (marks s : List Char) : Bool :=
  match trimStart s with
  | [] => false
  | c :: _ => c ∈ marks

/-- A word that starts at a word boundary, and blanks after it. -/
def keyword? (word : String) (before : Option Char) (s : List Char) : Option (List Char) :=
  if before.any isWordChar then none else (dropLead? word.toList s).bind blanks?

-- ---------------------------------------------------------------------------
-- The patterns
-- ---------------------------------------------------------------------------

/-- `TEST_CASE("name"`: the quoted text is the name. -/
def testCase : Probe := fun _ s => do
  let s ← dropLead? "TEST_CASE".toList s
  let s ← dropLead? ['('] (trimStart s)
  let s ← dropLead? ['"'] (trimStart s)
  let name := s.takeWhile (· ≠ '"')
  if name.isEmpty || (s.dropWhile (· ≠ '"')).isEmpty then none else some name

/-- `name(`: the first identifier before a parenthesis. Where an identifier has none after it, neither
has any end of it, so the search goes on behind it. -/
def signature? : List Char → Option (List Char)
  | [] => none
  | c :: s =>
    if isNameStart c then
      let rest := s.dropWhile isNameChar
      if opens ['('] rest then some (c :: s.takeWhile isNameChar) else signature? rest
    else signature? s
termination_by s => s.length
decreasing_by
  · exact Nat.lt_succ_of_le (List.dropWhile_sublist _).length_le
  · exact Nat.lt_succ_self _

/-- `fn name(` or `fn name<`. -/
def function : Probe := fun before s => do
  let s ← keyword? "fn" before s
  let (name, s) ← identifier? s
  if opens ['<', '('] s then some name else none

/-- `def test_name(`. -/
def testFunction : Probe := fun before s => do
  let s ← keyword? "def" before s
  let (name, s) ← identifier? s
  if startsWith "test_".toList name && opens ['('] s then some name else none

/-- `void name(`. -/
def voidFunction : Probe := fun before s => do
  let s ← keyword? "void" before s
  let (name, s) ← identifier? s
  if opens ['('] s then some name else none

def annotationMarks : List (List Char) :=
  ["@Test", "@ParameterizedTest", "[Test", "[Fact"].map String.toList

/-- Does the line open with a test annotation, a whole word? -/
def isAnnotation (line : List Char) : Bool :=
  annotationMarks.any fun mark =>
    match dropLead? mark line with
    | none => false
    | some rest => !rest.head?.any isWordChar

def attributeMarks : List (List Char) :=
  ["#[test]", "#[rstest]", "#[tokio::test"].map String.toList

/-- Does the line hold a test attribute? -/
def isAttribute (line : List Char) : Bool :=
  attributeMarks.any fun mark => contains mark line

end SpecCoverage.Pattern
