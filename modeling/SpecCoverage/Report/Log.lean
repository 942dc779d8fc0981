-- SUMMARY: Reading the verbose text log of the validator.
import SpecCoverage.Report.Basic
import SpecCoverage.Text.Line

/-!
# The text log

The log opens each feature with a marker line and each language with a glyph; flagged scenarios
follow in method lines under a header or in warnings. Each line is classified by itself
(`LogLine.ofText`), then the lines are read in order (`LogReading.step`).
-/
namespace SpecCoverage

open Text

-- ---------------------------------------------------------------------------
-- Lines
-- ---------------------------------------------------------------------------

/-- What a line of the log says. -/
inductive LogLine where
  | blank
  | feature (path : String)
  | language (verdict : LanguageVerdict)
  /-- The header of flagged methods. -/
  | header
  /-- A warning, with the scenario that it flags. -/
  | warning (scenario? : Option String)
  /-- A method line, with the scenario that it flags under a header. -/
  | method (scenario : String)
  | noise

namespace LogLine

def featureMarker : String := "📋 Feature:"
def passGlyph : Char := '✅'
def failGlyph : Char := '❌'
def warningGlyph : String := "⚠️"
def missingStepsHeader : String := "⚠️  Missing steps by method:"
def failedEnding : String := " (validation failed)"
def noTestFile : String := "No test file found"

/-- Read what follows the glyph of a language line: a name of one word, and a test file. -/
def verdict? (c : OutputContext) (passed : Bool) (rest : List Char) : Option LanguageVerdict :=
  match cutFirst? ": ".toList (trimStart rest) with
  | none => none
  | some (name, detail) =>
    let name := trim name
    if name.isEmpty || name.any isBlank then none
    else
      let detail := trim detail
      let path := trim ((dropTail? failedEnding.toList detail).getD detail)
      let found := path ≠ noTestFile.toList
      some
        { language := c.policy.resolve (String.ofList name)
          implemented := passed
          sourcePath? := if found then some (c.relativize (String.ofList path)) else none
          flagged := ∅
          unflagged := if found then .pass else .fail }

/-- Read a language line. -/
def language? (c : OutputContext) : List Char → Option LanguageVerdict
  | [] => none
  | glyph :: rest =>
    if glyph = passGlyph then verdict? c true rest
    else if glyph = failGlyph then verdict? c false rest
    else none

/-- The scenario that a method line names between `(scenario: ` and the parenthesis at the end. -/
def method? (line : List Char) : Option String := do
  let rest ← dropLead? "In method ".toList line
  let (_, clause) ← cutFirst? " (scenario: ".toList rest
  let name ← (dropTail? "):".toList clause).or (dropTail? [')'] clause)
  let name := trim name
  if name.isEmpty then none else some (String.ofList name)

/-- Classify a line that has no blanks around it. -/
def ofText (c : OutputContext) (line : List Char) : LogLine :=
  if line.isEmpty then .blank
  else
    match dropLead? featureMarker.toList line with
    | some path => .feature (c.relativize (String.ofList path))
    | none =>
      match language? c line with
      | some v => .language v
      | none =>
        if startsWith missingStepsHeader.toList line then .header
        else
          match dropLead? warningGlyph.toList line with
          | some text => .warning (missingMethod? text)
          | none =>
            match method? line with
            | some scenario => .method scenario
            | none => .noise

end LogLine

-- ---------------------------------------------------------------------------
-- Reading in order
-- ---------------------------------------------------------------------------

/-- A feature whose lines are being read. -/
structure OpenFeature where
  verdict : FeatureVerdict
  /-- The language whose lines are being read. -/
  language? : Option Language
  /-- Are method lines read as flags? -/
  underHeader : Bool

/-- What has been read of a log. -/
structure LogReading where
  /-- The features before the one being read, last first. -/
  closed : List FeatureVerdict
  /-- The feature being read. -/
  current? : Option OpenFeature

namespace OpenFeature

/-- Flag a scenario for the language being read. -/
def flag (f : OpenFeature) (scenario : String) : OpenFeature :=
  match f.language? with
  | none => f
  | some l =>
    match f.verdict.languages.get? l with
    | none => f
    | some v =>
      let v := { v with flagged := v.flagged.insert scenario, implemented := false }
      { f with verdict := { f.verdict with languages := f.verdict.languages.insert l v } }

end OpenFeature

namespace LogReading

def start : LogReading := ⟨[], none⟩

/-- The features read so far, last first. -/
def allFeatures (r : LogReading) : List FeatureVerdict :=
  match r.current? with
  | none => r.closed
  | some f => f.verdict :: r.closed

def step (r : LogReading) : LogLine → LogReading
  | .feature path => ⟨r.allFeatures, some ⟨⟨path, ∅⟩, none, false⟩⟩
  | .language v =>
    { r with current? := r.current?.map fun f =>
        { verdict := { f.verdict with languages := f.verdict.languages.insert v.language v }
          language? := some v.language
          underHeader := false } }
  | .header => { r with current? := r.current?.map fun f => { f with underHeader := true } }
  | .warning (some scenario) => { r with current? := r.current?.map (·.flag scenario) }
  | .method scenario =>
    { r with current? := r.current?.map fun f => if f.underHeader then f.flag scenario else f }
  | .warning none | .blank | .noise => r

end LogReading

namespace Report

/-- Read a text log. A log with lines but without any feature is refused. -/
def ofLog (c : OutputContext) (output : String) : Except OutputError Report :=
  let lines := (trimmedLines output.toList).filter (!·.isEmpty)
  let verdicts := ((lines.map (LogLine.ofText c)).foldl LogReading.step .start).allFeatures.reverse
  if verdicts.isEmpty && !lines.isEmpty then .error (.log lines.length)
  else .ok ⟨verdicts, ∅⟩

end Report

end SpecCoverage
