-- SUMMARY: The report of a validator run, the failures of a run, and paths relative to a workspace.
import SpecCoverage.Report.CrossReference
import SpecCoverage.Report.Verdict
import SpecCoverage.Text.Cut

/-!
# Reports

A report holds the verdicts in the order in which the validator gave them and the cross references.
-/
namespace SpecCoverage

open Text

/-- Everything one run of the validator said. -/
structure Report where
  verdicts : List FeatureVerdict
  crossReferences : CrossReferences
  deriving DecidableEq

namespace Report

def empty : Report := ⟨[], ∅⟩

instance : Inhabited Report := ⟨empty⟩

def isEmpty (r : Report) : Bool :=
  r.verdicts.isEmpty && r.crossReferences.values.all (·.isEmpty)

end Report

/-- Why a validator run gave no report. -/
inductive ValidatorError where
  | build (output : String)
  | spawn (cause : String)
  | invocation (code stdout stderr : String)
  | files (cause : String)
  deriving DecidableEq

def ValidatorError.message : ValidatorError → String
  | .build output => "validator build failed: " ++ output
  | .spawn cause => "validator spawn failed: " ++ cause
  | .invocation code stdout stderr =>
    "validator exited with " ++ code ++ ": stdout: " ++ stdout ++ " stderr: " ++ stderr
  | .files cause => "validator io error: " ++ cause

/-- Why an output is no report. -/
inductive OutputError where
  /-- It is no document of the expected form. -/
  | document
  /-- None of its lines, of which there are so many, opens a feature. -/
  | log (lines : Nat)
  deriving DecidableEq

-- ---------------------------------------------------------------------------
-- Paths in outputs
-- ---------------------------------------------------------------------------

/-- What reading an output depends on besides the output. -/
structure OutputContext where
  /-- The root of the workspace, as it is written. -/
  workspace : String
  policy : LanguagePolicy

/-- Every backslash as a slash. -/
def slashes (s : List Char) : List Char :=
  s.map fun c => if c = '\\' then '/' else c

namespace OutputContext

/-- The workspace root without slashes at its end. -/
def root (c : OutputContext) : List Char :=
  (((slashes c.workspace.toList).reverse.dropWhile (· == '/'))).reverse

/-- A path relative to the workspace, with slashes and without `./` in front. A path that does not
lie below the workspace is kept. -/
def relativize (c : OutputContext) (path : String) : String :=
  let written := slashes (trim path.toList)
  let inner :=
    if c.root.isEmpty then written
    else (dropLead? (c.root ++ ['/']) written).getD written
  String.ofList (dropLeads "./".toList inner)

end OutputContext

/-- The scenario that a warning says has no test method. -/
def missingMethod? (warning : List Char) : Option String :=
  match dropLead? "No test method found for scenario: ".toList (trim warning) with
  | none => none
  | some rest =>
    let name := trim (((cutFirst? " (expected in ".toList rest).map (·.1)).getD rest)
    if name.isEmpty then none else some (String.ofList name)

end SpecCoverage
