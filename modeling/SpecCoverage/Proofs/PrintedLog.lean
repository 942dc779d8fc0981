-- SUMMARY: The text log as the validator prints it: blocks, their lines, what they say, and how lines are laid out.
import SpecCoverage.Proofs.Cutting
import SpecCoverage.Proofs.Order
import SpecCoverage.Proofs.Trimming
import SpecCoverage.Report.Log

/-!
# The printed log

A log is printed block by block: a line for the feature, then for each language a line with a glyph,
followed by the lines that flag scenarios. Lines may be indented, and lines of other output may
stand between them. `verdict` is what a block says, whichever way it is laid out; a block is
`Readable` when no text in it is taken for a part of the form around it.
-/
namespace SpecCoverage.PrintedLog

open Text

/-! ## Lines that flag scenarios -/

/-- A line that belongs to the language line before it. -/
inductive Mark where
  /-- The header of flagged methods. -/
  | header
  /-- A method, the line it starts at, and the scenario that it flags. -/
  | method (name : String) (line? : Option Nat) (scenario : String)
  /-- A scenario without a test method, and the place where one is expected. -/
  | warning (scenario : String) (place? : Option String)

namespace Mark

def scenarioClause : List Char := " (scenario: ".toList
def placeClause : List Char := " (expected in ".toList

/-- The part of a method line before the scenario. -/
def methodText (name : String) (line? : Option Nat) : List Char :=
  let place := match line? with
    | none => []
    | some n => " at line ".toList ++ (toString n).toList
  "'".toList ++ name.toList ++ "'".toList ++ place

/-- The part of a warning after the scenario. -/
def placeText : Option String → List Char
  | none => []
  | some place => placeClause ++ (place.toList ++ ")".toList)

def line : Mark → List Char
  | .header => LogLine.missingStepsHeader.toList
  | .method name line? scenario =>
    "In method ".toList ++
      (methodText name line? ++ scenarioClause ++ (scenario.toList ++ "):".toList))
  | .warning scenario place? =>
    LogLine.warningGlyph.toList ++
      ("  No test method found for scenario: ".toList ++ (scenario.toList ++ placeText place?))

def scenario? : Mark → Option String
  | .header => none
  | .method _ _ scenario | .warning scenario _ => some scenario

/-- Is there anything in the name, and are there no blanks around it? -/
def IsTrimmed (name : String) : Prop :=
  trim name.toList = name.toList ∧ name.toList ≠ []

instance (name : String) : Decidable (IsTrimmed name) :=
  inferInstanceAs (Decidable (_ ∧ _))

/-- The first clause in the line is the one that is printed. -/
def Readable : Mark → Prop
  | .header => True
  | .method name line? scenario =>
    IsTrimmed scenario ∧ ¬ StartsWithin scenarioClause (methodText name line?)
  | .warning scenario none => IsTrimmed scenario ∧ ¬ placeClause <:+: scenario.toList
  | .warning scenario (some _) => IsTrimmed scenario ∧ ¬ StartsWithin placeClause scenario.toList

instance : ∀ m : Mark, Decidable m.Readable
  | .header => isTrue trivial
  | .method .. => inferInstanceAs (Decidable (_ ∧ _))
  | .warning _ none => inferInstanceAs (Decidable (_ ∧ _))
  | .warning _ (some _) => inferInstanceAs (Decidable (_ ∧ _))

/-- Do methods stand only below a header? -/
def headed : Bool → List Mark → Bool
  | _, [] => true
  | _, .header :: marks => headed true marks
  | under, .method .. :: marks => under && headed under marks
  | under, .warning .. :: marks => headed under marks

end Mark

/-! ## Languages -/

/-- What a language line says of the test file. -/
inductive Outcome where
  | noFile
  | passed (path : String)
  | failed (path : String)

namespace Outcome

def isPassed : Outcome → Bool
  | .passed _ => true
  | .noFile | .failed _ => false

def glyph (o : Outcome) : Char :=
  if o.isPassed then LogLine.passGlyph else LogLine.failGlyph

def path? : Outcome → Option String
  | .noFile => none
  | .passed path | .failed path => some path

def text : Outcome → List Char
  | .noFile => LogLine.noTestFile.toList
  | .passed path => path.toList
  | .failed path => path.toList ++ LogLine.failedEnding.toList

/-- Is it the path of a file, not the text that stands in its place? -/
def IsPath (path : String) : Prop :=
  trim path.toList ≠ [] ∧ trim path.toList ≠ LogLine.noTestFile.toList

instance (path : String) : Decidable (IsPath path) :=
  inferInstanceAs (Decidable (_ ∧ _))

/-- A path is printed, and a path that passed does not end as one that failed. -/
def Readable : Outcome → Prop
  | .noFile => True
  | .passed path => IsPath path ∧ ¬ LogLine.failedEnding.toList <:+ trim path.toList
  | .failed path => IsPath path

instance : ∀ o : Outcome, Decidable o.Readable
  | .noFile => isTrue trivial
  | .passed _ => inferInstanceAs (Decidable (_ ∧ _))
  | .failed path => inferInstanceAs (Decidable (IsPath path))

end Outcome

/-- A language line and the lines that belong to it. -/
structure Entry where
  name : String
  outcome : Outcome
  marks : List Mark

namespace Entry

def head (e : Entry) : List Char :=
  e.outcome.glyph :: ' ' :: (e.name.toList ++ ": ".toList) ++ e.outcome.text

def lines (e : Entry) : List (List Char) :=
  e.head :: e.marks.map Mark.line

def scenarios (e : Entry) : List String :=
  e.marks.filterMap Mark.scenario?

def language (c : OutputContext) (e : Entry) : Language :=
  c.policy.resolve e.name

/-- What the language line alone says. -/
def opening (c : OutputContext) (e : Entry) : LanguageVerdict where
  language := e.language c
  implemented := e.outcome.isPassed
  sourcePath? := e.outcome.path?.map c.relativize
  flagged := ∅
  unflagged := if e.outcome.path?.isSome then .pass else .fail

/-- What the language line and the lines that belong to it say. -/
def verdict (c : OutputContext) (e : Entry) : LanguageVerdict where
  language := e.language c
  implemented := e.outcome.isPassed && e.scenarios.isEmpty
  sourcePath? := e.outcome.path?.map c.relativize
  flagged := .ofList e.scenarios
  unflagged := if e.outcome.path?.isSome then .pass else .fail

/-- Is the name one word? -/
def IsWord (name : String) : Prop :=
  name.toList ≠ [] ∧ ∀ ch ∈ name.toList, isBlank ch = false

instance (name : String) : Decidable (IsWord name) :=
  have := List.decidableBAll (fun ch => isBlank ch = false) name.toList
  inferInstanceAs (Decidable (_ ∧ _))

/-- The name is one word, and every line reads as it is meant. -/
structure Readable (e : Entry) : Prop where
  name : IsWord e.name
  outcome : e.outcome.Readable
  marks : ∀ m ∈ e.marks, m.Readable
  headed : Mark.headed false e.marks = true

instance (e : Entry) : Decidable e.Readable :=
  decidable_of_iff
    (IsWord e.name ∧ e.outcome.Readable ∧ (∀ m ∈ e.marks, m.Readable) ∧
      Mark.headed false e.marks = true)
    ⟨fun ⟨h₁, h₂, h₃, h₄⟩ => ⟨h₁, h₂, h₃, h₄⟩, fun ⟨h₁, h₂, h₃, h₄⟩ => ⟨h₁, h₂, h₃, h₄⟩⟩

end Entry

/-! ## Features -/

/-- A feature line and the languages below it. -/
structure Block where
  path : String
  entries : List Entry

namespace Block

def head (b : Block) : List Char :=
  LogLine.featureMarker.toList ++ ' ' :: b.path.toList

def lines (b : Block) : List (List Char) :=
  b.head :: b.entries.flatMap Entry.lines

def Readable (b : Block) : Prop :=
  ∀ e ∈ b.entries, e.Readable

instance (b : Block) : Decidable b.Readable :=
  inferInstanceAs (Decidable (∀ e ∈ b.entries, e.Readable))

/-- Of two lines for one language the later one holds. -/
def verdict (c : OutputContext) (b : Block) : FeatureVerdict where
  path := c.relativize b.path
  languages := .ofList (b.entries.map fun e => (e.language c, e.verdict c))

/-- A block that prints no language twice has the verdicts of its entries and no others. -/
theorem get?_languages_verdict {c : OutputContext} {b : Block}
    (hb : (b.entries.map (·.language c)).Nodup) {l : Language} {v : LanguageVerdict} :
    (b.verdict c).languages.get? l = some v ↔
      ∃ e ∈ b.entries, e.language c = l ∧ e.verdict c = v := by
  constructor
  · intro h
    obtain ⟨e, he, heq⟩ := List.mem_map.1 (SortedMap.mem_of_get?_ofList h)
    exact ⟨e, he, (Prod.mk.inj heq).1, (Prod.mk.inj heq).2⟩
  · rintro ⟨e, he, rfl, rfl⟩
    refine SortedMap.get?_ofList_of_mem (List.mem_map.2 ⟨e, he, rfl⟩) ?_
    intro w hw
    obtain ⟨e', he', heq⟩ := List.mem_map.1 hw
    obtain ⟨hlanguage, rfl⟩ := Prod.mk.inj heq
    rw [List.inj_on_of_nodup_map hb he' he hlanguage]

end Block

/-! ## Layout -/

/-- What only lines of the form start with. -/
def starts : List (List Char) :=
  [LogLine.featureMarker.toList, [LogLine.passGlyph], [LogLine.failGlyph],
    LogLine.warningGlyph.toList, "In method ".toList]

/-- A line of other output, or a blank one. -/
def IsNoise (l : List Char) : Prop :=
  ∀ p ∈ starts, ¬ p <+: trim l

instance (l : List Char) : Decidable (IsNoise l) :=
  inferInstanceAs (Decidable (∀ p ∈ starts, ¬ p <+: trim l))

/-- The lines of a log, with blanks around them and noise between them. -/
inductive Laid : List (List Char) → List (List Char) → Prop
  | nil : Laid [] []
  | line {l : List Char} {ls laid : List (List Char)} (before after : List Char) :
    AllBlank before → AllBlank after → Laid ls laid →
      Laid (l :: ls) ((before ++ l ++ after) :: laid)
  | noise {l : List Char} {ls laid : List (List Char)} :
    IsNoise l → Laid ls laid → Laid ls (l :: laid)

/-- Every line may have the same blanks around it. -/
theorem laid_map {before after : List Char} (hbefore : AllBlank before) (hafter : AllBlank after)
    (ls : List (List Char)) : Laid ls (ls.map fun l => before ++ l ++ after) := by
  induction ls with
  | nil => exact .nil
  | cons l ls ih => exact .line before after hbefore hafter ih

theorem laid_self (ls : List (List Char)) : Laid ls ls := by
  have hblank : AllBlank [] := fun _ h => absurd h List.not_mem_nil
  simpa using laid_map hblank hblank ls

end SpecCoverage.PrintedLog
