-- SUMMARY: Breaking changes and behavior differences with the tests that assert them.
import SpecCoverage.Language

/-!
# Cross references

A record of either kind has an identifier, a description and, per language, the tests that assert
it. Its anchor is the name under which a report page can be linked to it.
-/
namespace SpecCoverage

open Text

inductive RecordKind where
  | breakingChange
  | behaviorDifference
  deriving DecidableEq, Inhabited

namespace RecordKind

/-- All kinds, in the order in which reports show them. -/
def all : List RecordKind := [.breakingChange, .behaviorDifference]

def label : RecordKind → String
  | .breakingChange => "Breaking Change"
  | .behaviorDifference => "Behavior Difference"

def heading : RecordKind → String
  | .breakingChange => "Breaking Changes"
  | .behaviorDifference => "Behavior Differences"

/-- What the anchors of a kind start with. -/
def slug : RecordKind → String
  | .breakingChange => "bc"
  | .behaviorDifference => "bd"

/-- The field of a validator document that holds the records of a kind. -/
def reportField : RecordKind → String
  | .breakingChange => "breaking_changes_report"
  | .behaviorDifference => "behavior_differences_report"

def rank : RecordKind → Nat
  | .breakingChange => 0
  | .behaviorDifference => 1

instance : Ord RecordKind := ⟨compareOn rank⟩

instance : Std.TransOrd RecordKind := inferInstanceAs (Std.TransCmp (compareOn rank))

instance : Std.LawfulEqOrd RecordKind where
  compare_self {a} := by
    have h : compare a.rank a.rank = .eq := Std.ReflCmp.compare_self
    exact h
  eq_of_compare {a b} h := by
    have h : compare a.rank b.rank = .eq := h
    have h : a.rank = b.rank := Std.LawfulEqCmp.eq_of_compare h
    cases a <;> cases b <;> simp_all [rank]

end RecordKind

-- ---------------------------------------------------------------------------
-- Tests of a record
-- ---------------------------------------------------------------------------

/-- A file and a line in it. -/
structure SourceLocation where
  file : String
  line : Nat
  deriving DecidableEq

namespace SourceLocation

instance : Ord SourceLocation := ⟨compareLex (compareOn file) (compareOn line)⟩

instance : Std.TransOrd SourceLocation := inferInstanceAs (Std.TransCmp (compareLex _ _))

instance : Std.LawfulEqOrd SourceLocation where
  compare_self {a} := by
    have h : (compare a.file a.file).then (compare a.line a.line) = .eq := by simp
    exact h
  eq_of_compare {a b} h := by
    have h : (compare a.file b.file).then (compare a.line b.line) = .eq := h
    obtain ⟨hf, hl⟩ := Ordering.then_eq_eq.1 h
    cases a; cases b
    simp only [mk.injEq]
    exact ⟨Std.LawfulEqCmp.eq_of_compare hf, Std.LawfulEqCmp.eq_of_compare hl⟩

end SourceLocation

/-- A test that asserts a record, and where the old and the new behavior are asserted. -/
structure Implementation where
  testMethod : String
  testFile : String
  testLine? : Option Nat
  oldBehavior? : Option SourceLocation
  newBehavior? : Option SourceLocation
  deriving DecidableEq

namespace Implementation

def order : Implementation → Implementation → Ordering :=
  compareLex (compareOn testMethod) <| compareLex (compareOn testFile) <|
    compareLex (compareOn testLine?) <| compareLex (compareOn oldBehavior?) (compareOn newBehavior?)

instance : Ord Implementation := ⟨order⟩

instance : Std.TransOrd Implementation := inferInstanceAs (Std.TransCmp (compareLex _ _))

instance : Std.LawfulEqOrd Implementation where
  compare_self {a} := by
    have h : (compare a.testMethod a.testMethod).then ((compare a.testFile a.testFile).then
        ((compare a.testLine? a.testLine?).then ((compare a.oldBehavior? a.oldBehavior?).then
          (compare a.newBehavior? a.newBehavior?)))) = .eq := by simp
    exact h
  eq_of_compare {a b} h := by
    have h : (compare a.testMethod b.testMethod).then ((compare a.testFile b.testFile).then
        ((compare a.testLine? b.testLine?).then ((compare a.oldBehavior? b.oldBehavior?).then
          (compare a.newBehavior? b.newBehavior?)))) = .eq := h
    obtain ⟨hm, h⟩ := Ordering.then_eq_eq.1 h
    obtain ⟨hf, h⟩ := Ordering.then_eq_eq.1 h
    obtain ⟨hl, h⟩ := Ordering.then_eq_eq.1 h
    obtain ⟨ho, hn⟩ := Ordering.then_eq_eq.1 h
    cases a; cases b
    simp only [mk.injEq]
    exact ⟨Std.LawfulEqCmp.eq_of_compare hm, Std.LawfulEqCmp.eq_of_compare hf,
      Std.LawfulEqCmp.eq_of_compare hl, Std.LawfulEqCmp.eq_of_compare ho,
      Std.LawfulEqCmp.eq_of_compare hn⟩

end Implementation

-- ---------------------------------------------------------------------------
-- Records
-- ---------------------------------------------------------------------------

/-- The anchor of the record of a kind with an identifier: letters and digits in lower case, every
other character a hyphen. -/
def anchorFor (kind : RecordKind) (id : String) : String :=
  kind.slug ++ "-" ++
    String.ofList (id.toList.map fun c => if isAsciiAlphanumeric c then lowerChar c else '-')

/-- A breaking change or behavior difference. -/
structure CrossRecord where
  kind : RecordKind
  id : String
  description : String
  implementations : SortedMap Language (List Implementation)
  deriving DecidableEq

def CrossRecord.anchor (r : CrossRecord) : String :=
  anchorFor r.kind r.id

/-- The records under each kind. -/
abbrev CrossReferences := SortedMap RecordKind (List CrossRecord)

end SpecCoverage
