-- SUMMARY: Reading a specification file into a feature.
import SpecCoverage.Feature.Scope
import SpecCoverage.Feature.Title
import SpecCoverage.Text.Line

/-!
# Reading features

Only the structure of a specification matters: tag lines, the feature line and scenario lines. Each
line is classified by itself (`Line.ofText`), then the lines are read in order (`Reading.step`).
Tags wait for the next feature or scenario line; prose after the feature line drops them, steps,
comments and blank lines do not.
-/
namespace SpecCoverage

open Text

-- ---------------------------------------------------------------------------
-- Lines
-- ---------------------------------------------------------------------------

/-- What a line of a specification means for its structure. -/
inductive Line where
  | tags (tags : List String)
  | feature (title : String)
  | scenario (name : String)
  /-- Blank lines, comments, steps, and the lines of backgrounds, tables and rules. -/
  | neutral
  | prose
  deriving DecidableEq

namespace Line

def stepKeywords : List (List Char) :=
  ["Given", "When", "Then", "And", "But", "*"].map String.toList

def neutralOpenings : List (List Char) :=
  ["#", "Background:", "Examples:", "Rule:", "|", "\"\"\""].map String.toList

def scenarioKeywords : List (List Char) :=
  ["Scenario Outline:", "Scenario:"].map String.toList

/-- A step keyword stands alone or before a space. -/
def isStep (line : List Char) : Bool :=
  stepKeywords.any fun k =>
    match dropLead? k line with
    | none => false
    | some rest => rest.isEmpty || startsWith [' '] rest

def isNeutral (line : List Char) : Bool :=
  neutralOpenings.any fun k => startsWith k line

/-- The words of a line that are tags. -/
def tagsOf (line : List Char) : List String :=
  ((words line).filter (startsWith ['@'])).map String.ofList

/-- The name on a scenario line. -/
def scenarioName? (line : List Char) : Option String :=
  (scenarioKeywords.findSome? fun k => dropLead? k line).map fun rest => String.ofList (trim rest)

/-- Classify a line that has no blanks around it. -/
def ofText (line : List Char) : Line :=
  if line.isEmpty then .neutral
  else if startsWith ['@'] line then .tags (tagsOf line)
  else
    match dropLead? "Feature:".toList line with
    | some rest => .feature (String.ofList (trim rest))
    | none =>
      match scenarioName? line with
      | some name => .scenario name
      | none => if isStep line || isNeutral line then .neutral else .prose

end Line

-- ---------------------------------------------------------------------------
-- Languages named by tags
-- ---------------------------------------------------------------------------

namespace Tag

/-- A tag without its `@` signs, in lower case. -/
def body (tag : String) : List Char :=
  lowerAscii (tag.toList.dropWhile (· == '@'))

/-- The language that a tag names before `ending`. -/
def language? (policy : LanguagePolicy) (ending : String) (tag : String) : Option Language :=
  match dropTail? ending.toList (body tag) with
  | none | some [] => none
  | some name => some (policy.resolve (String.ofList name))

/-- The languages that tags name before `ending`. -/
def languages (policy : LanguagePolicy) (ending : String) (tags : List String) :
    SortedSet Language :=
  .ofList (tags.filterMap (language? policy ending))

/-- Endings that a driver tag may have, the first that fits is taken off. -/
def driverEndings : List String := ["_e2e", "_int", ""]

/-- The language for which a tag names a driver test. -/
def driver? (policy : LanguagePolicy) (tag : String) : Option Language :=
  match driverEndings.findSome? fun e => dropTail? e.toList (body tag) with
  | none | some [] => none
  | some name => some (policy.resolve (String.ofList name))

def drivers (policy : LanguagePolicy) (tags : List String) : SortedSet Language :=
  .ofList (tags.filterMap (driver? policy))

end Tag

/-- A scenario under its own tags and those of the feature line before it. -/
def Scenario.ofTags (policy : LanguagePolicy) (name : String) (featureTags tags : List String) :
    Scenario where
  name := name
  tags := tags
  expected := Tag.languages policy "_expected" (featureTags ++ tags)
  excluded := Tag.languages policy "_not_needed" (featureTags ++ tags)
  drivers := Tag.drivers policy tags

-- ---------------------------------------------------------------------------
-- Reading in order
-- ---------------------------------------------------------------------------

/-- What has been read of a specification. -/
structure Reading where
  /-- Tags that wait for the next feature or scenario line, last first. -/
  pending : List String
  /-- Title on the last feature line. -/
  title? : Option String
  featureTags : List String
  /-- The scenarios, last first. -/
  scenarios : List Scenario

namespace Reading

def start : Reading := ⟨[], none, [], []⟩

def step (policy : LanguagePolicy) (r : Reading) : Line → Reading
  | .tags ts => { r with pending := ts.reverse ++ r.pending }
  | .feature title =>
    { r with pending := [], title? := some title, featureTags := r.pending.reverse }
  | .scenario name =>
    if r.scenarios.any (·.name == name) then { r with pending := [] }
    else
      { r with
        pending := []
        scenarios := .ofTags policy name r.featureTags r.pending.reverse :: r.scenarios }
  | .neutral => r
  | .prose => if r.title?.isSome then { r with pending := [] } else r

def ofLines (policy : LanguagePolicy) (lines : List Line) : Reading :=
  lines.foldl (step policy) start

end Reading

/-- Read the feature in a specification text. A missing or empty title is made from the path. -/
def Feature.read (policy : LanguagePolicy) (path folder text : String) : Feature :=
  let r := Reading.ofLines policy ((trimmedLines text.toList).map Line.ofText)
  { path := path
    title := (r.title?.filter (· ≠ "")).getD (Title.ofStem (fileStem path))
    tags := r.featureTags
    folder := folder
    scope := .ofPath path policy
    scenarios := r.scenarios.reverse }

end SpecCoverage
