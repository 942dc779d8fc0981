-- SUMMARY: What a report page shows: its tabs as data, taken from the coverage matrix.
import SpecCoverage.Folder
import SpecCoverage.Matrix.Basic
import SpecCoverage.Page.Link

/-!
# The page as data

A page has tabs for the shared features, the single-language features, the records of either kind,
the breakdown by scenario, and the missing pairs. This module says what each tab lists and where its
links lead; `Page/Html.lean` writes it down.
-/
namespace SpecCoverage

open Text

/-- A language name in capitals. -/
def Language.banner (l : Language) : String :=
  String.ofList (upper l.label.toList)

namespace Page

/-- Presentation settings. -/
structure Options where
  title : String
  /-- In front of the paths of source files. -/
  linkBase? : Option String
  deriving DecidableEq

def defaultTitle : String := "Universal Driver Test Coverage Report"

def Options.default : Options := ⟨defaultTitle, none⟩

instance : Inhabited Options := ⟨.default⟩

/-- A link to the block of a feature in the breakdown. -/
structure FeatureLink where
  anchor : String
  title : String
  deriving DecidableEq

def FeatureLink.ofFeature (f : Feature) : FeatureLink :=
  ⟨Link.featureAnchor f.path, f.title⟩

-- ---------------------------------------------------------------------------
-- Overview
-- ---------------------------------------------------------------------------

inductive Mark where
  | implemented
  | incomplete
  | noResult
  deriving DecidableEq

def Mark.ofRow (r : Row) (l : Language) : Mark :=
  match r.result? l with
  | some res => if res.implemented then .implemented else .incomplete
  | none => .noResult

structure OverviewCell where
  mark : Mark
  links : List RecordLink

structure OverviewRow where
  link : FeatureLink
  cells : List OverviewCell

structure OverviewFolder where
  banner : String
  rows : List OverviewRow

/-- The links of all scenarios of a row for a language, each once. -/
def rowLinks (r : Row) (l : Language) : List RecordLink :=
  (SortedSet.ofList (r.feature.scenarios.flatMap fun s => r.linksOf s.name l)).toList

def OverviewRow.ofRow (axis : List Language) (r : Row) : OverviewRow where
  link := .ofFeature r.feature
  cells := axis.map fun l => ⟨Mark.ofRow r l, rowLinks r l⟩

/-- The folders that hold shared features, with those features. -/
def overviewOf (m : Matrix) : List OverviewFolder :=
  m.folders.entries.filterMap fun (folder, rows) =>
    match rows.filter (·.isShared) with
    | [] => none
    | shared => some ⟨Folder.banner folder, shared.map (.ofRow m.languages)⟩

-- ---------------------------------------------------------------------------
-- Single-language features
-- ---------------------------------------------------------------------------

structure OwnedFeature where
  implemented : Bool
  link : FeatureLink
  scenarioCount : Nat
  /-- Names and tags. -/
  scenarios : List (String × List String)

structure OwnerSection where
  banner : String
  count : Nat
  features : List OwnedFeature

def OwnedFeature.ofRow (l : Language) (r : Row) : OwnedFeature where
  implemented := r.isImplementedFor l
  link := .ofFeature r.feature
  scenarioCount := r.feature.scenarios.length
  scenarios := r.feature.scenarios.map fun s => (s.name, s.tags)

/-- The owners on the axis in its order, then the others by key. -/
def ownersOf (axis : List Language) (owned : SortedMap Language (List Row)) : List Language :=
  axis.filter (owned.contains ·) ++ owned.keys.filter (· ∉ axis)

def ownedOf (m : Matrix) : List OwnerSection :=
  let owned := m.ownedRows
  (ownersOf m.languages owned).map fun l =>
    let rows := (owned.get? l).getD []
    ⟨l.banner, rows.length, rows.map (.ofRow l)⟩

-- ---------------------------------------------------------------------------
-- Records
-- ---------------------------------------------------------------------------

/-- A place in a source file, as it is shown and as it is linked. -/
structure SourceLink where
  href : String
  shown : String

def SourceLink.ofLocation (base? : Option String) (s : SourceLocation) : SourceLink :=
  ⟨Link.toSource base? s.file (some s.line), s.file ++ ":" ++ toString s.line⟩

structure RecordTest where
  language : String
  method : String
  test : SourceLink
  newBehavior? : Option SourceLink
  oldBehavior? : Option SourceLink

structure RecordBlock where
  anchor : String
  id : String
  description : String
  tests : List RecordTest

def RecordTest.ofImplementation (base? : Option String) (l : Language) (i : Implementation) :
    RecordTest where
  language := l.label
  method := i.testMethod
  test :=
    { href := Link.toSource base? i.testFile i.testLine?
      shown := i.testFile ++ (match i.testLine? with
        | some line => ":" ++ toString line
        | none => "") }
  newBehavior? := i.newBehavior?.map (.ofLocation base?)
  oldBehavior? := i.oldBehavior?.map (.ofLocation base?)

def RecordBlock.ofRecord (base? : Option String) (r : CrossRecord) : RecordBlock where
  anchor := r.anchor
  id := r.id
  description := r.description
  tests := r.implementations.entries.flatMap fun (l, is) =>
    is.map (.ofImplementation base? l)

/-- The records listed for a kind. -/
def recordsOf (m : Matrix) (k : RecordKind) : List CrossRecord :=
  (m.crossReferences.get? k).getD []

-- ---------------------------------------------------------------------------
-- Breakdown
-- ---------------------------------------------------------------------------

/-- What the breakdown shows for a scenario and a language. -/
inductive BreakdownCell where
  | notNeeded
  | todo
  | noResult
  | result (passed : Bool) (source? : Option SourceLink) (links : List RecordLink)

structure BreakdownRow where
  scenario : String
  level : TestLevel
  cells : List BreakdownCell

structure BreakdownBlock where
  link : FeatureLink
  path : String
  rows : List BreakdownRow

structure BreakdownFolder where
  title : String
  blocks : List BreakdownBlock

/-- A result as a cell, linked to the test where its file is known. -/
def BreakdownCell.ofResult (base? : Option String) (r : Row) (s : Scenario) (l : Language)
    (res : LanguageResult) : BreakdownCell :=
  .result (res.statuses.get? s.name == some .pass)
    (res.sourcePath?.map fun p => ⟨Link.toSource base? p (res.lines.get? s.name), p⟩)
    (r.linksOf s.name l)

/-- A scenario that passes shows its result; any other is to do, failing, or without a result. -/
def BreakdownCell.ofRow (base? : Option String) (r : Row) (s : Scenario) (l : Language) :
    BreakdownCell :=
  if s.isExcludedFor l then .notNeeded
  else if s.isTodoFor l && r.status? l s.name != some .pass then .todo
  else
    match r.result? l with
    | some res => .ofResult base? r s l res
    | none => .noResult

def BreakdownRow.ofScenario (base? : Option String) (axis : List Language) (r : Row)
    (s : Scenario) : BreakdownRow where
  scenario := s.name
  level := s.level
  cells := axis.map (.ofRow base? r s)

def BreakdownBlock.ofRow (base? : Option String) (axis : List Language) (r : Row) :
    BreakdownBlock where
  link := .ofFeature r.feature
  path := r.feature.path
  rows := r.feature.scenarios.map (.ofScenario base? axis r)

def breakdownOf (base? : Option String) (m : Matrix) : List BreakdownFolder :=
  m.folders.entries.map fun (folder, rows) =>
    ⟨Folder.title folder, rows.map (.ofRow base? m.languages)⟩

-- ---------------------------------------------------------------------------
-- Missing pairs
-- ---------------------------------------------------------------------------

structure MissingItem where
  link : FeatureLink
  path : String

structure MissingSection where
  language : String
  count : Nat
  items : List MissingItem

def MissingItem.ofMissing (p : Missing) : MissingItem :=
  ⟨⟨Link.featureAnchor p.featurePath, p.featureTitle⟩, p.featurePath⟩

/-- The languages of the axis that miss features, with those features. -/
def missingOf (m : Matrix) : List MissingSection :=
  m.languages.filterMap fun l =>
    match m.missing.filter (·.language == l) with
    | [] => none
    | pairs => some ⟨l.label, pairs.length, pairs.map .ofMissing⟩

-- ---------------------------------------------------------------------------
-- The page
-- ---------------------------------------------------------------------------

structure SummaryCard where
  language : String
  value : String
  styleName : String
  implemented : Nat
  total : Nat

def SummaryCard.ofSummary (s : LanguageSummary) : SummaryCard where
  language := s.language.label
  value := if s.total = 0 then "N/A" else s.percentage.toTenths ++ "%"
  styleName := s.coverageClass.styleName
  implemented := s.implemented
  total := s.total

/-- The tab of the records of a kind. -/
structure RecordTab where
  kind : RecordKind
  /-- The number in the label of the tab. -/
  count : Nat
  blocks : List RecordBlock

/-- The contents of the tabs. -/
structure View where
  axis : List String
  overview : List OverviewFolder
  cards : List SummaryCard
  /-- The number in the label of the tab of single-language features. -/
  ownedCount : Nat
  owned : List OwnerSection
  records : List RecordTab
  breakdown : List BreakdownFolder
  /-- The number in the label of the tab of missing pairs. -/
  missingCount : Nat
  /-- Is no pair missing? -/
  complete : Bool
  missing : List MissingSection

def View.ofMatrix (base? : Option String) (m : Matrix) : View where
  axis := m.languages.map (·.label)
  overview := overviewOf m
  cards := m.summaries.map .ofSummary
  ownedCount := (m.ownedRows.values.map (·.length)).foldr (· + ·) 0
  owned := ownedOf m
  records := RecordKind.all.map fun k =>
    ⟨k, (recordsOf m k).length, (recordsOf m k).map (.ofRecord base?)⟩
  breakdown := breakdownOf base? m
  missingCount := m.missing.length
  complete := m.missing.isEmpty
  missing := missingOf m

end Page

end SpecCoverage
