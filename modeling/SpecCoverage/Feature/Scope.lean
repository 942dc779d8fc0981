-- SUMMARY: The scope of a feature, read off its path.
import SpecCoverage.Feature.Basic

/-!
# Scope from the path

A file in one of the single-language directories right below the first `definitions` directory
belongs to that language. Every other feature is shared.
-/
namespace SpecCoverage.FeatureScope

open Text

def definitionsDirectory : String := "definitions"

/-- Directories below `definitions` that hold the features of one language. -/
def languageDirectories : List String :=
  ["core", "python", "odbc", "jdbc", "csharp", "javascript"]

/-- The pieces of a path after its first `definitions`. -/
def afterDefinitions (path : String) : List String :=
  (((splitAtChars isPathSeparator path.toList).map String.ofList).dropWhile
    (· ≠ definitionsDirectory)).drop 1

def ofPath (path : String) (policy : LanguagePolicy) : FeatureScope :=
  match afterDefinitions path with
  | directory :: _ :: _ =>
    if String.ofList (lowerAscii directory.toList) ∈ languageDirectories then
      .only (policy.resolve directory)
    else .shared
  | _ => .shared

end SpecCoverage.FeatureScope
