-- SUMMARY: The settings of a report run, their defaults, and what follows from them.
import SpecCoverage.Language
import SpecCoverage.Page.View
import SpecCoverage.Path

/-!
# Settings

Settings say where specifications and validator are, how the validator is run, how languages are
named and ordered, and how the report is presented. Relative paths start at the workspace.
-/
namespace SpecCoverage

open Text

/-- What the validator writes: a document, or a log for people. -/
inductive Dialect where
  | json
  | text
  deriving DecidableEq, Inhabited

namespace Dialect

def name : Dialect → String
  | .json => "json"
  | .text => "text"

/-- The dialect of settings that choose none. -/
def default : Dialect := .json

def ofName? (name : String) : Option Dialect :=
  [json, text].find? (·.name == name)

end Dialect

/-- How a report is presented. -/
inductive Presentation where
  | table
  | html
  deriving DecidableEq, Inhabited

namespace Presentation

def name : Presentation → String
  | .table => "table"
  | .html => "html"

/-- The name in messages. -/
def label : Presentation → String
  | .table => "Table"
  | .html => "HTML"

/-- The presentation of settings that choose none. -/
def default : Presentation := .html

def ofName? (name : String) : Option Presentation :=
  [table, html].find? (·.name == name)

end Presentation

-- ---------------------------------------------------------------------------
-- Sections
-- ---------------------------------------------------------------------------

/-- Where the specifications are. -/
structure CatalogSettings where
  featuresDir : Path
  deriving DecidableEq

def CatalogSettings.default : CatalogSettings := ⟨⟨"tests/definitions"⟩⟩

/-- Where the validator is and how it is built and run. -/
structure ValidatorSettings where
  dir : Path
  /-- The validator, relative to `dir`. -/
  binary : Path
  buildTool : String
  /-- The name under which the build tool runs the validator. -/
  binName : String
  /-- Is the validator built when it is out of date? -/
  rebuild : Bool
  dialect : Dialect
  deriving DecidableEq

def ValidatorSettings.default : ValidatorSettings where
  dir := ⟨"tests/tests_format_validator"⟩
  binary := ⟨"target/debug/tests_format_validator"⟩
  buildTool := "cargo"
  binName := "tests_format_validator"
  rebuild := true
  dialect := .default

/-- How languages are named and ordered. -/
structure LanguageSettings where
  pinned : List String
  aliases : SortedMap String String
  deriving DecidableEq

def LanguageSettings.default : LanguageSettings where
  pinned := [Language.core.key]
  aliases := .ofList [("rust", Language.core.key)]

/-- How the report is presented. -/
structure ReportSettings where
  title : String
  presentation : Presentation
  htmlOutput : Path
  /-- In front of the paths of source files; nothing where it is blank. -/
  linkBase : String
  deriving DecidableEq

def ReportSettings.default : ReportSettings where
  title := Page.defaultTitle
  presentation := .default
  htmlOutput := ⟨"universal_driver_e2e_test_coverage.html"⟩
  linkBase := ""

/-- The settings of a report run. -/
structure Settings where
  catalog : CatalogSettings
  validator : ValidatorSettings
  languages : LanguageSettings
  report : ReportSettings
  /-- The file they were read from. -/
  source? : Option Path
  deriving DecidableEq

/-- How a workspace runs its validator. -/
structure BridgeSettings where
  workspace : Path
  featuresDir : Path
  validatorDir : Path
  binary : Path
  buildTool : String
  binName : String
  rebuild : Bool
  dialect : Dialect
  policy : LanguagePolicy

namespace Settings

def default : Settings := ⟨.default, .default, .default, .default, none⟩

instance : Inhabited Settings := ⟨default⟩

-- ---------------------------------------------------------------------------
-- What follows
-- ---------------------------------------------------------------------------

/-- The language policy. Where aliases are one name in different spellings, the last in the order of
the spellings holds. -/
def policy (s : Settings) : LanguagePolicy :=
  .ofNames s.languages.aliases.entries s.languages.pinned

def bridge (s : Settings) (workspace : Path) : BridgeSettings where
  workspace := workspace
  featuresDir := s.catalog.featuresDir
  validatorDir := s.validator.dir
  binary := s.validator.binary
  buildTool := s.validator.buildTool
  binName := s.validator.binName
  rebuild := s.validator.rebuild
  dialect := s.validator.dialect
  policy := s.policy

def featuresDir (s : Settings) (workspace : Path) : Path :=
  workspace / s.catalog.featuresDir

def htmlOutput (s : Settings) (workspace : Path) : Path :=
  workspace / s.report.htmlOutput

/-- The settings of the page, without blanks around them. -/
def pageOptions (s : Settings) : Page.Options where
  title := String.ofList (trim s.report.title.toList)
  linkBase? :=
    let base := trim s.report.linkBase.toList
    if base.isEmpty then none else some (String.ofList base)

end Settings

end SpecCoverage
