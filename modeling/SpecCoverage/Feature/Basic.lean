-- SUMMARY: Features and scenarios: their tags, the languages they name, and what is still to do.
import SpecCoverage.Language
import SpecCoverage.Text.Cut

/-!
# Features

A feature is a specification file: a title, tags, and named scenarios. Scenario and feature tags
say which languages are expected to implement a scenario, which do not need it, and for which a
driver test exists. A feature is shared by all languages or belongs to a single one.
-/
namespace SpecCoverage

open Text

/-- The kind of test a scenario is written for. -/
inductive TestLevel where
  | endToEnd
  | integration
  deriving DecidableEq

def TestLevel.label : TestLevel → String
  | .endToEnd => "E2E"
  | .integration => "Integration"

/-- Who has to implement a feature. -/
inductive FeatureScope where
  | shared
  | only (language : Language)
  deriving DecidableEq

namespace FeatureScope

def isShared : FeatureScope → Bool
  | .shared => true
  | .only _ => false

def owner? : FeatureScope → Option Language
  | .shared => none
  | .only l => some l

end FeatureScope

-- ---------------------------------------------------------------------------
-- Scenarios
-- ---------------------------------------------------------------------------

structure Scenario where
  name : String
  tags : List String
  /-- Languages that have to implement the scenario. -/
  expected : SortedSet Language
  /-- Languages that do not need the scenario. -/
  excluded : SortedSet Language
  /-- Languages for which the scenario itself names a driver test. -/
  drivers : SortedSet Language
  deriving DecidableEq

namespace Scenario

/-- A tag that ends in `_int`, in any case, makes it an integration scenario. -/
def level (s : Scenario) : TestLevel :=
  if s.tags.any fun t => endsWith "_int".toList (lowerAscii t.toList) then .integration
  else .endToEnd

def isExcludedFor (s : Scenario) (l : Language) : Bool :=
  l ∈ s.excluded

/-- A scenario is to do for a language that needs it and is expected to have it or has no driver
test for it. -/
def isTodoFor (s : Scenario) (l : Language) : Bool :=
  !s.isExcludedFor l && (decide (l ∈ s.expected) || !decide (l ∈ s.drivers))

end Scenario

-- ---------------------------------------------------------------------------
-- Features
-- ---------------------------------------------------------------------------

structure Feature where
  path : String
  title : String
  tags : List String
  /-- The bucket under which reports list the feature. -/
  folder : String
  scope : FeatureScope
  scenarios : List Scenario
  deriving DecidableEq

/-- Both kinds of slash separate the directories of a specification path. -/
def isPathSeparator (c : Char) : Bool :=
  c == '/' || c == '\\'

/-- The part of a file name before its last dot, or all of it. -/
def stemOfName (name : List Char) : List Char :=
  (beforeLast? (· == '.') name).getD name

/-- The file name of a specification path, without directories and extension. -/
def fileStem (path : String) : String :=
  String.ofList (stemOfName (afterLast isPathSeparator path.toList))

namespace Feature

def scenarioNames (f : Feature) : List String :=
  f.scenarios.map (·.name)

def stem (f : Feature) : String :=
  fileStem f.path

end Feature

end SpecCoverage
