-- SUMMARY: Finding the verdict of a feature, by its path or by its file name.
import SpecCoverage.Feature.Basic
import SpecCoverage.Report.Basic

/-!
# Joining features and verdicts

A verdict belongs to a feature when their paths agree up to the kind of slashes and `./` in front.
Where no path agrees, a verdict for a file of the same name is taken. Of several verdicts for one
path or name the first counts.
-/
namespace SpecCoverage

open Text

/-- A path with slashes and without `./` in front. -/
def normalizePath (path : String) : String :=
  String.ofList (dropLeads "./".toList (slashes path.toList))

/-- The file name of a normalized path without its extension. -/
def normalizedStem (path : String) : String :=
  String.ofList (stemOfName (afterLast (· == '/') path.toList))

/-- Verdicts by normalized path and by file name. -/
structure VerdictIndex where
  byPath : SortedMap String FeatureVerdict
  byStem : SortedMap String FeatureVerdict

namespace VerdictIndex

def ofVerdicts (verdicts : List FeatureVerdict) : VerdictIndex where
  byPath := .ofListFirst (verdicts.map fun v => (normalizePath v.path, v))
  byStem := .ofListFirst (verdicts.map fun v => (normalizedStem (normalizePath v.path), v))

/-- The verdict of a feature, by path first and by file name second. -/
def lookup? (index : VerdictIndex) (f : Feature) : Option FeatureVerdict :=
  (index.byPath.get? (normalizePath f.path)).or (index.byStem.get? f.stem)

end VerdictIndex

end SpecCoverage
