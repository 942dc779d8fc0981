-- SUMMARY: Verdicts of the validator: per feature and language, and the status of each scenario.
import SpecCoverage.Language

/-!
# Verdicts

For a feature and a language the validator says whether it found a test file, whether everything is
implemented, and which scenarios it flags.
-/
namespace SpecCoverage

inductive Status where
  | pass
  | fail
  deriving DecidableEq, Inhabited

def Status.label : Status → String
  | .pass => "PASS"
  | .fail => "FAIL"

/-- What the validator says about one language of a feature. -/
structure LanguageVerdict where
  language : Language
  implemented : Bool
  /-- The test file, where one was found. -/
  sourcePath? : Option String
  flagged : SortedSet String
  /-- Status of the scenarios that are not flagged. -/
  unflagged : Status
  deriving DecidableEq

namespace LanguageVerdict

def statusOf (v : LanguageVerdict) (scenario : String) : Status :=
  if scenario ∈ v.flagged then .fail else v.unflagged

theorem statusOf_eq_fail_iff {v : LanguageVerdict} {s : String} :
    v.statusOf s = .fail ↔ s ∈ v.flagged ∨ v.unflagged = .fail := by
  unfold statusOf
  split <;> simp_all

end LanguageVerdict

/-- What the validator says about a feature. -/
structure FeatureVerdict where
  path : String
  languages : SortedMap Language LanguageVerdict
  deriving DecidableEq

end SpecCoverage
