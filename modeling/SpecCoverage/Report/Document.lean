-- SUMMARY: The JSON document of the validator: its records and how they are decoded.
import SpecCoverage.Json.Decode
import SpecCoverage.Json.Reader
import SpecCoverage.Report.CrossReference

/-!
# The report document

The document holds results per feature and language, and a report of cross references of either
kind. Fields with a default may be missing, some fields have several spellings, and fields of other
names are passed over.
-/
namespace SpecCoverage

/-- A test that asserts a record, as the document gives it. -/
structure ImplementationEntry where
  testMethod : String
  testFile : String
  testLine? : Option Nat
  newFile? : Option String
  newLine? : Option Nat
  oldFile? : Option String
  oldLine? : Option Nat
  deriving DecidableEq

/-- A record under one language. -/
structure RecordEntry where
  id : String
  description : String
  implementations : List ImplementationEntry
  deriving DecidableEq

/-- The records of one kind. -/
structure CrossEntry where
  descriptions : SortedMap String String
  byLanguage : SortedMap String (List RecordEntry)
  deriving DecidableEq

/-- The result of one language for a feature. -/
structure LanguageEntry where
  language : String
  testFileFound : Bool
  testFilePath? : Option String
  missingSteps : List String
  implementedSteps : List String
  warnings : List String
  /-- The scenarios whose methods miss steps. -/
  flaggedMethods : List String
  deriving DecidableEq

/-- The results for a feature. -/
structure FeatureEntry where
  featureFile : String
  languages : List LanguageEntry
  deriving DecidableEq

/-- The whole document. -/
structure ReportDocument where
  features : List FeatureEntry
  breakingChanges? : Option CrossEntry
  behaviorDifferences? : Option CrossEntry
  deriving DecidableEq

-- ---------------------------------------------------------------------------
-- Decoding
-- ---------------------------------------------------------------------------

open Json

namespace ImplementationEntry

def schema : List Spellings :=
  [["test_method"], ["test_file"], ["test_line"],
    ["new_behaviour_file", "new_behavior_file"], ["new_behaviour_line", "new_behavior_line"],
    ["old_behaviour_file", "old_behavior_file"], ["old_behaviour_line", "old_behavior_line"]]

def ofFields? : List (Option Json) → Option ImplementationEntry
  | [method, file, line, newFile, newLine, oldFile, oldLine] => do
    return {
      testMethod := ← required? asText? method
      testFile := ← required? asText? file
      testLine? := ← defaulted? none (asOptional? asCount?) line
      newFile? := ← defaulted? none (asOptional? asText?) newFile
      newLine? := ← defaulted? none (asOptional? asCount?) newLine
      oldFile? := ← defaulted? none (asOptional? asText?) oldFile
      oldLine? := ← defaulted? none (asOptional? asCount?) oldLine }
  | _ => none

def ofJson? (v : Json) : Option ImplementationEntry :=
  (fields? schema v).bind ofFields?

end ImplementationEntry

namespace RecordEntry

def schema : List Spellings :=
  [["id", "breaking_change_id", "behavior_difference_id"], ["description"], ["implementations"]]

def ofFields? : List (Option Json) → Option RecordEntry
  | [id, description, implementations] => do
    return {
      id := ← required? asText? id
      description := ← defaulted? "" asText? description
      implementations := ← defaulted? [] (asList? ImplementationEntry.ofJson?) implementations }
  | _ => none

def ofJson? (v : Json) : Option RecordEntry :=
  (fields? schema v).bind ofFields?

end RecordEntry

namespace CrossEntry

def schema : List Spellings :=
  [["descriptions", "breaking_change_descriptions", "behavior_difference_descriptions"],
    ["by_language", "breaking_changes_by_language", "behavior_differences_by_language"]]

def ofFields? : List (Option Json) → Option CrossEntry
  | [descriptions, byLanguage] => do
    return {
      descriptions := ← defaulted? ∅ (asMap? asText?) descriptions
      byLanguage := ← defaulted? ∅ (asMap? (asList? RecordEntry.ofJson?)) byLanguage }
  | _ => none

def ofJson? (v : Json) : Option CrossEntry :=
  (fields? schema v).bind ofFields?

end CrossEntry

namespace LanguageEntry

/-- A method that misses steps is known by its scenario. -/
def methodSchema : List Spellings := [["scenario_name"]]

def scenarioOfMethod? (v : Json) : Option String :=
  match fields? methodSchema v with
  | some [name] => required? asText? name
  | _ => none

def schema : List Spellings :=
  [["language"], ["test_file_found"], ["test_file_path"], ["missing_steps"], ["implemented_steps"],
    ["warnings"], ["missing_steps_by_method"]]

def ofFields? : List (Option Json) → Option LanguageEntry
  | [language, found, path, missing, implemented, warnings, methods] => do
    return {
      language := ← required? asText? language
      testFileFound := ← defaulted? false asBool? found
      testFilePath? := ← defaulted? none (asOptional? asText?) path
      missingSteps := ← defaulted? [] (asList? asText?) missing
      implementedSteps := ← defaulted? [] (asList? asText?) implemented
      warnings := ← defaulted? [] (asList? asText?) warnings
      flaggedMethods := ← defaulted? [] (asList? scenarioOfMethod?) methods }
  | _ => none

def ofJson? (v : Json) : Option LanguageEntry :=
  (fields? schema v).bind ofFields?

end LanguageEntry

namespace FeatureEntry

def schema : List Spellings := [["feature_file"], ["validations"]]

def ofFields? : List (Option Json) → Option FeatureEntry
  | [file, validations] => do
    return {
      featureFile := ← required? asText? file
      languages := ← defaulted? [] (asList? LanguageEntry.ofJson?) validations }
  | _ => none

def ofJson? (v : Json) : Option FeatureEntry :=
  (fields? schema v).bind ofFields?

end FeatureEntry

namespace ReportDocument

def schema : List Spellings :=
  [["validation_results"], [RecordKind.breakingChange.reportField],
    [RecordKind.behaviorDifference.reportField]]

def ofFields? : List (Option Json) → Option ReportDocument
  | [results, changes, differences] => do
    return {
      features := ← defaulted? [] (asList? FeatureEntry.ofJson?) results
      breakingChanges? := ← defaulted? none (asOptional? CrossEntry.ofJson?) changes
      behaviorDifferences? := ← defaulted? none (asOptional? CrossEntry.ofJson?) differences }
  | _ => none

def ofJson? (v : Json) : Option ReportDocument :=
  (fields? schema v).bind ofFields?

/-- Read the document in a text. -/
def read? (text : String) : Option ReportDocument :=
  (Json.read? text).bind ofJson?

end ReportDocument

end SpecCoverage
