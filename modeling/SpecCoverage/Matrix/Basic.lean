-- SUMMARY: The coverage matrix: features by languages by scenarios, with summaries and what is missing.
import SpecCoverage.Feature.Basic
import SpecCoverage.Matrix.Summary
import SpecCoverage.Report.CrossReference
import SpecCoverage.Report.Verdict

/-!
# The coverage matrix

A row is a feature with an entry for every language on the axis: what the validator reported for the
language, or nothing. Links lead from scenarios to the cross references that their tests assert.
-/
namespace SpecCoverage

/-- What was reported for a feature and a language. -/
structure LanguageResult where
  language : Language
  /-- Everything is implemented and no scenario is flagged. -/
  implemented : Bool
  sourcePath? : Option String
  /-- The status of each scenario of the feature. -/
  statuses : SortedMap String Status
  /-- The line of the test of each scenario for which one was found. -/
  lines : SortedMap String Nat
  deriving DecidableEq

/-- A link from a scenario to a cross reference. -/
structure RecordLink where
  kind : RecordKind
  id : String
  anchor : String
  deriving DecidableEq

namespace RecordLink

def order : RecordLink → RecordLink → Ordering :=
  compareLex (compareOn kind) (compareLex (compareOn id) (compareOn anchor))

instance : Ord RecordLink := ⟨order⟩

instance : Std.TransOrd RecordLink := inferInstanceAs (Std.TransCmp (compareLex _ _))

instance : Std.LawfulEqOrd RecordLink where
  compare_self {a} := by
    have h : (compare a.kind a.kind).then
        ((compare a.id a.id).then (compare a.anchor a.anchor)) = .eq := by simp
    exact h
  eq_of_compare {a b} h := by
    have h : (compare a.kind b.kind).then
        ((compare a.id b.id).then (compare a.anchor b.anchor)) = .eq := h
    obtain ⟨hk, h⟩ := Ordering.then_eq_eq.1 h
    obtain ⟨hi, ha⟩ := Ordering.then_eq_eq.1 h
    cases a; cases b
    simp only [mk.injEq]
    exact ⟨Std.LawfulEqCmp.eq_of_compare hk, Std.LawfulEqCmp.eq_of_compare hi,
      Std.LawfulEqCmp.eq_of_compare ha⟩

end RecordLink

/-- A feature with its entries. -/
structure Row where
  feature : Feature
  languages : SortedMap Language (Option LanguageResult)
  links : SortedMap String (SortedMap Language (List RecordLink))
  deriving DecidableEq

namespace Row

/-- What was reported for a language. -/
def result? (r : Row) (l : Language) : Option LanguageResult :=
  (r.languages.get? l).join

def status? (r : Row) (l : Language) (scenario : String) : Option Status :=
  (r.result? l).bind fun res => res.statuses.get? scenario

def linksOf (r : Row) (scenario : String) (l : Language) : List RecordLink :=
  ((r.links.get? scenario).bind (·.get? l)).getD []

def isImplementedFor (r : Row) (l : Language) : Bool :=
  (r.result? l).any (·.implemented)

def isShared (r : Row) : Bool :=
  r.feature.scope.isShared

end Row

/-- A shared feature that a language does not implement. -/
structure Missing where
  featurePath : String
  featureTitle : String
  language : Language
  deriving DecidableEq

structure Matrix where
  /-- The axis. -/
  languages : List Language
  rows : List Row
  summaries : List LanguageSummary
  missing : List Missing
  crossReferences : CrossReferences
  deriving DecidableEq

namespace Matrix

/-- Is there nothing to show? -/
def isEmpty (m : Matrix) : Bool :=
  m.rows.isEmpty || m.languages.isEmpty

/-- The rows of the features that every language has to implement. -/
def sharedRows (m : Matrix) : List Row :=
  m.rows.filter (·.isShared)

/-- The rows of single-language features by owner, in path order. -/
def ownedRows (m : Matrix) : SortedMap Language (List Row) :=
  (SortedMap.group (m.rows.filterMap fun r => r.feature.scope.owner?.map fun l => (l, r))).mapValues
    fun _ rows => rows.mergeSort fun a b => (compare a.feature.path b.feature.path).isLE

/-- The rows by folder. -/
def folders (m : Matrix) : SortedMap String (List Row) :=
  SortedMap.group (m.rows.map fun r => (r.feature.folder, r))

end Matrix

end SpecCoverage
