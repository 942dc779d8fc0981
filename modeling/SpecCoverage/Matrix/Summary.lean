-- SUMMARY: How much of the shared scenarios a language implements.
import SpecCoverage.Language
import SpecCoverage.Numeric.Binary64

/-!
# Language summaries

A summary counts the scenarios of shared features and those among them that a language implements,
and classes the language by the percentage.
-/
namespace SpecCoverage

inductive CoverageClass where
  | high
  | medium
  | low
  | notApplicable
  deriving DecidableEq

namespace CoverageClass

/-- At least 80 percent is high, at least 60 medium; without scenarios no class applies. -/
def ofPercentage (total : Nat) (percentage : Binary64) : CoverageClass :=
  if total = 0 then .notApplicable
  else if percentage.atLeast 80 then .high
  else if percentage.atLeast 60 then .medium
  else .low

/-- The name of a class in style sheets. -/
def styleName : CoverageClass → String
  | .high => "high"
  | .medium => "medium"
  | .low => "low"
  | .notApplicable => "na"

end CoverageClass

structure LanguageSummary where
  language : Language
  implemented : Nat
  total : Nat
  percentage : Dyadic
  coverageClass : CoverageClass
  deriving DecidableEq

namespace LanguageSummary

/-- `implemented / total * 100`, each operation rounded, and at most 100. -/
def percentageOf (implemented total : Nat) : Dyadic :=
  if total = 0 then .zero
  else (((Dyadic.ofNat implemented).div (.ofNat total)).mul (.ofNat 100)).min 100

def ofCounts (language : Language) (implemented total : Nat) : LanguageSummary :=
  let percentage := percentageOf implemented total
  { language := language
    implemented := implemented
    total := total
    percentage := percentage
    coverageClass := .ofPercentage total (.finite false percentage) }

end LanguageSummary

end SpecCoverage
