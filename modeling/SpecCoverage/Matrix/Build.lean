-- SUMMARY: Building the coverage matrix from features, a report and the lines of tests.
import SpecCoverage.Matrix.Basic
import SpecCoverage.Matrix.Join
import SpecCoverage.Spelling

/-!
# Building the matrix

The axis holds the languages of all verdicts that belong to some feature. Rows are in the order of
folder and path, records in the order of their identifiers. Source files are read row by row and, in
a row, language by language.
-/
namespace SpecCoverage

/-- Finds the lines of the tests of scenarios in a source file. The state is what has been read. -/
abbrev LineFinder (σ : Type) :=
  (sourcePath : String) → (scenarios : List String) → StateM σ (SortedMap String Nat)

/-- What a verdict says about the scenarios of a feature for a language, with the lines of tests. -/
def LanguageVerdict.result (v : LanguageVerdict) (l : Language) (scenarios : List String)
    (lines : SortedMap String Nat) : LanguageResult :=
  let statuses := SortedMap.ofList (scenarios.map fun s => (s, v.statusOf s))
  { language := l
    implemented := v.implemented && statuses.values.all (· == .pass)
    sourcePath? := v.sourcePath?
    statuses := statuses
    lines := lines }

-- ---------------------------------------------------------------------------
-- Links
-- ---------------------------------------------------------------------------

namespace CrossRecord

def link (r : CrossRecord) : RecordLink :=
  ⟨r.kind, r.id, r.anchor⟩

/-- Has the record a test in the language that is known under one of these forms? -/
def testedBy (r : CrossRecord) (l : Language) (forms : List (List Char)) : Bool :=
  ((r.implementations.get? l).getD []).any fun i => Spelling.isAmong forms i.testMethod

end CrossRecord

/-- The links of a scenario of these forms for a language, in order and each once. -/
def linksFor (records : List CrossRecord) (forms : List (List Char)) (l : Language) :
    SortedSet RecordLink :=
  .ofList ((records.filter (·.testedBy l forms)).map (·.link))

/-- The links of all scenarios for all languages that have any. -/
def linkTable (records : List CrossRecord) (languages : List Language) (scenarios : List String) :
    SortedMap String (SortedMap Language (List RecordLink)) :=
  .ofList <| scenarios.filterMap fun s =>
    let forms := Spelling.reducedForms s
    let byLanguage := languages.filterMap fun l =>
      let links := linksFor records forms l
      if links.isEmpty then none else some (l, links.toList)
    if byLanguage.isEmpty then none else some (s, .ofList byLanguage)

-- ---------------------------------------------------------------------------
-- Rows, summaries, missing pairs
-- ---------------------------------------------------------------------------

variable {σ : Type} (find : LineFinder σ)

/-- The lines of tests in the source file of a verdict, none without a file. -/
def LanguageVerdict.findLines (v : LanguageVerdict) (scenarios : List String) :
    StateM σ (SortedMap String Nat) :=
  match v.sourcePath? with
  | some p => find p scenarios
  | none => pure ∅

/-- The result of a feature for a language that its verdict has. -/
def resultFor (f : Feature) (verdict? : Option FeatureVerdict) (l : Language) :
    StateM σ (Option LanguageResult) :=
  match verdict?.bind (·.languages.get? l) with
  | some v => do return some (v.result l f.scenarioNames (← v.findLines find f.scenarioNames))
  | none => pure none

/-- The entries of a feature for the languages of the axis. -/
def entriesFor (axis : List Language) (f : Feature) (verdict? : Option FeatureVerdict) :
    StateM σ (SortedMap Language (Option LanguageResult)) := do
  return .ofList (← axis.mapM fun l => do return (l, ← resultFor find f verdict? l))

/-- The summary of a language over shared rows; a feature weighs as many scenarios as it has. -/
def LanguageSummary.ofRows (rows : List Row) (l : Language) : LanguageSummary :=
  let shared := rows.filter (·.isShared)
  let weight (rows : List Row) : Nat := (rows.map (·.feature.scenarios.length)).foldr (· + ·) 0
  .ofCounts l (weight (shared.filter (·.isImplementedFor l))) (weight shared)

/-- A shared feature is missing for a language that does not implement it, unless it has scenarios
and none of them is needed for the language. -/
def Row.isMissingFor (r : Row) (l : Language) : Bool :=
  !r.isImplementedFor l &&
    (r.feature.scenarios.isEmpty || !r.feature.scenarios.all (·.isExcludedFor l))

def Missing.ofRows (axis : List Language) (rows : List Row) : List Missing :=
  (rows.filter (·.isShared)).flatMap fun r =>
    (axis.filter fun l => r.isMissingFor l).map fun l => ⟨r.feature.path, r.feature.title, l⟩

namespace Matrix

/-- Order by folder, then by path. -/
def featureBefore (f g : Feature) : Bool :=
  (compareLex (compareOn Feature.folder) (compareOn Feature.path) f g).isLE

/-- Order by identifier. -/
def recordBefore (r s : CrossRecord) : Bool :=
  (compare r.id s.id).isLE

/-- The languages of the verdicts that belong to features. -/
def axisOf (policy : LanguagePolicy) (index : VerdictIndex) (features : List Feature) :
    List Language :=
  policy.order ((features.filterMap index.lookup?).flatMap (·.languages.keys))

def rowOf (axis : List Language) (records : List CrossRecord) (index : VerdictIndex)
    (f : Feature) : StateM σ Row := do
  return {
    feature := f
    languages := ← entriesFor find axis f (index.lookup? f)
    links := linkTable records axis f.scenarioNames }

/-- The matrix of features under the verdicts of a report and cross references. -/
def build (policy : LanguagePolicy) (features : List Feature) (verdicts : List FeatureVerdict)
    (crossReferences : CrossReferences) : StateM σ Matrix := do
  let crossReferences := crossReferences.mapValues fun _ rs => rs.mergeSort recordBefore
  let features := features.mergeSort featureBefore
  let index := VerdictIndex.ofVerdicts verdicts
  let axis := axisOf policy index features
  let records := crossReferences.values.flatten
  let rows ← features.mapM (rowOf find axis records index)
  return {
    languages := axis
    rows := rows
    summaries := axis.map (LanguageSummary.ofRows rows)
    missing := Missing.ofRows axis rows
    crossReferences := crossReferences }

end Matrix

end SpecCoverage
