-- SUMMARY: Which settings are accepted, and what is said about those that are not.
import SpecCoverage.Settings.Basic

/-!
# Checking settings

Paths are given and not too long, names are single words, languages are few and each pinned once,
and the link base is the address of a web page. The first fault in the order of the sections is the
one that is reported.
-/
namespace SpecCoverage

open Text

/-- What can be wrong with one field. -/
inductive FieldFault where
  | empty
  | blank
  | tooLong
  | partTooLong
  deriving DecidableEq

def FieldFault.message : FieldFault → String
  | .empty => "must be non-empty"
  | .blank => "must not contain whitespace"
  | .tooLong => "exceeds max length"
  | .partTooLong => "path component too long"

/-- Why there are no settings. -/
inductive SettingsError where
  /-- Their file cannot be read. -/
  | files (cause : String)
  /-- Their text is no document of the expected form. -/
  | document
  | field (name : String) (fault : FieldFault)
  | separatorInName (name : String)
  | tooManyLanguages
  | pinnedTwice (name : String)
  | linkScheme
  | linkCharacters
  | tooLarge
  | notText
  deriving DecidableEq

namespace SettingsError

/-- At most so many pinned languages, and as many aliases, are accepted. -/
def languageLimit : Nat := 64

/-- What is wrong with settings that could be read. -/
def fault : SettingsError → String
  | .files cause => cause
  | .document => "the text is no settings document"
  | .field name fault => name ++ " " ++ fault.message
  | .separatorInName name => name ++ " must not contain path separators"
  | .tooManyLanguages =>
    "languages accepts at most " ++ toString languageLimit ++ " pinned entries and aliases"
  | .pinnedTwice name => "languages.pinned lists " ++ name ++ " twice"
  | .linkScheme => "report.source_link_base must be an http(s) url"
  | .linkCharacters => "report.source_link_base contains invalid characters"
  | .tooLarge => "config file exceeds size limit"
  | .notText => "config file must be utf-8"

def message (e : SettingsError) : String :=
  match e with
  | .files _ => "config io error: " ++ e.fault
  | .document => "config parse error: " ++ e.fault
  | _ => "invalid config: " ++ e.fault

end SettingsError

namespace Settings

/-- The outcome of a check. -/
abbrev Checked := Except SettingsError Unit

/-- Fail with `e` where `bad` holds. -/
def refuseIf (bad : Bool) (e : SettingsError) : Checked :=
  if bad then .error e else .ok ()

-- ---------------------------------------------------------------------------
-- Fields
-- ---------------------------------------------------------------------------

/-- In bytes, as the other limits but that of the title. -/
def pathLimit : Nat := 4096

def partLimit : Nat := 255

/-- In characters. -/
def titleLimit : Nat := 256

def hasLongPart (p : Path) : Bool :=
  p.parts.any fun part => part.text.utf8ByteSize > partLimit

/-- A path and its parts are not too long. -/
def checkLength (field : String) (p : Path) : Checked := do
  refuseIf (p.text.utf8ByteSize > pathLimit) (.field field .tooLong)
  refuseIf (hasLongPart p) (.field field .partTooLong)

/-- A path is given and not too long. -/
def checkPath (field : String) (p : Path) : Checked := do
  refuseIf (p.text = "") (.field field .empty)
  checkLength field p

/-- A name is a single word, blanks around it apart, and not too long. -/
def checkName (field name : String) : Checked := do
  let name := trim name.toList
  refuseIf name.isEmpty (.field field .empty)
  refuseIf (name.any isBlank) (.field field .blank)
  refuseIf ((String.ofList name).utf8ByteSize > partLimit) (.field field .tooLong)

-- ---------------------------------------------------------------------------
-- Sections
-- ---------------------------------------------------------------------------

def checkCatalog (s : CatalogSettings) : Checked :=
  checkPath "catalog.features_dir" s.featuresDir

def checkValidator (s : ValidatorSettings) : Checked := do
  checkPath "validator.dir" s.dir
  checkPath "validator.binary" s.binary
  checkName "validator.build_tool" s.buildTool
  checkName "validator.bin_name" s.binName
  refuseIf (s.binName.toList.any isPathSeparator) (.separatorInName "validator.bin_name")

/-- Each of the names is one word, and none stands for a language named before. -/
def checkPinned (seen : List Language) : List String → Checked
  | [] => .ok ()
  | name :: names => do
    checkName "languages.pinned" name
    refuseIf (Language.ofName name ∈ seen) (.pinnedTwice name)
    checkPinned (.ofName name :: seen) names

/-- Both sides of each alias are one word. -/
def checkAliases : List (String × String) → Checked
  | [] => .ok ()
  | (source, target) :: aliases => do
    checkName "languages.aliases" source
    checkName "languages.aliases" target
    checkAliases aliases

def checkLanguages (s : LanguageSettings) : Checked := do
  let limit := SettingsError.languageLimit
  refuseIf (s.pinned.length > limit || s.aliases.size > limit) .tooManyLanguages
  checkPinned [] s.pinned
  checkAliases s.aliases.entries

/-- A link base starts like the address of a web page. -/
def hasLinkScheme (base : List Char) : Bool :=
  startsWith "https://".toList base || startsWith "http://".toList base

/-- No blanks, quotes or brackets stand in a link base. -/
def isLinkChar (c : Char) : Bool :=
  !(isBlank c || c == '"' || c == '<' || c == '>')

def checkLinkBase (base : List Char) : Checked :=
  if base.isEmpty then .ok ()
  else do
    refuseIf (!hasLinkScheme base) .linkScheme
    refuseIf (!base.all isLinkChar) .linkCharacters
    refuseIf ((String.ofList base).utf8ByteSize > pathLimit)
      (.field "report.source_link_base" .tooLong)

def checkReport (s : ReportSettings) : Checked := do
  let title := trim s.title.toList
  refuseIf title.isEmpty (.field "report.title" .empty)
  refuseIf (title.length > titleLimit) (.field "report.title" .tooLong)
  checkLength "report.html_output" s.htmlOutput
  refuseIf (s.htmlOutput.text = "") (.field "report.html_output" .empty)
  checkLinkBase (trim s.linkBase.toList)

/-- All sections in their order. -/
def check (s : Settings) : Checked := do
  checkCatalog s.catalog
  checkValidator s.validator
  checkLanguages s.languages
  checkReport s.report

end Settings

end SpecCoverage
