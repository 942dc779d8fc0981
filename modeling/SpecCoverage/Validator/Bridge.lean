-- SUMMARY: Running the validator once per dialect and remembering its reports.
import SpecCoverage.Report.Log
import SpecCoverage.Report.OfDocument
import SpecCoverage.Settings.Basic
import SpecCoverage.Validator.Freshness
import SpecCoverage.Validator.Host

/-!
# The bridge to the validator

The bridge builds the validator when it is out of date, runs it in the dialect that is asked for, and
keeps the report of each dialect until it is told to forget them. Cross references stand in the JSON
report alone; where the settings ask for the text log they are given up when that report fails.
-/
namespace SpecCoverage

/-- Read an output in a dialect. -/
def Dialect.read (c : OutputContext) (output : String) : Dialect → Except OutputError Report
  | .json => Report.ofJson c output
  | .text => Report.ofLog c output

/-- The reports that are remembered. -/
structure Memo where
  json? : Option Report
  text? : Option Report
  deriving DecidableEq

namespace Memo

def empty : Memo := ⟨none, none⟩

instance : Inhabited Memo := ⟨empty⟩

def get? (m : Memo) : Dialect → Option Report
  | .json => m.json?
  | .text => m.text?

def insert (m : Memo) (report : Report) : Dialect → Memo
  | .json => { m with json? := some report }
  | .text => { m with text? := some report }

theorem get?_insert (m : Memo) (r : Report) (a b : Dialect) :
    (m.insert r a).get? b = if b = a then some r else m.get? b := by
  cases a <;> cases b <;> simp [insert, get?]

@[simp] theorem get?_empty (a : Dialect) : empty.get? a = none := by
  cases a <;> rfl

end Memo

/-- The bridge to the validator of one workspace. -/
structure Bridge where
  settings : BridgeSettings
  memo : Memo
  /-- The validator has been found or made up to date. -/
  checked : Bool

namespace Bridge

/-- A bridge that remembers nothing. The workspace is made absolute where that can be done. -/
def start (d : Disk) (s : BridgeSettings) : Bridge where
  settings := { s with workspace := (d.absolute s.workspace).toOption.getD s.workspace }
  memo := .empty
  checked := false

/-- Forget the reports and that the validator is up to date. -/
def invalidate (b : Bridge) : Bridge :=
  { b with memo := .empty, checked := false }

def isCached (b : Bridge) (mode : Dialect) : Bool :=
  (b.memo.get? mode).isSome

-- ---------------------------------------------------------------------------
-- Launches
-- ---------------------------------------------------------------------------

def directory (b : Bridge) : Path :=
  b.settings.workspace / b.settings.validatorDir

def binary (b : Bridge) : Path :=
  b.directory / b.settings.binary

def features (b : Bridge) : Path :=
  b.settings.workspace / b.settings.featuresDir

def buildLaunch (b : Bridge) : Launch :=
  ⟨⟨b.settings.buildTool⟩, ["build"], b.directory⟩

/-- What every run of the validator is told. -/
def scope (b : Bridge) : List String :=
  ["--workspace", b.settings.workspace.text, "--features", b.features.text]

/-- The run for a dialect: the binary for JSON, and the build tool, which runs it, for the log. -/
def runLaunch (b : Bridge) : Dialect → Launch
  | .json => ⟨b.binary, b.scope ++ ["--json"], b.directory⟩
  | .text =>
    ⟨⟨b.settings.buildTool⟩,
      ["run", "--bin", b.settings.binName, "--"] ++ b.scope ++ ["--verbose"], b.directory⟩

/-- The exit codes of runs that gave a report: no findings, and some. -/
def reportCodes : List Int := [0, 1]

def context (b : Bridge) : OutputContext :=
  ⟨b.settings.workspace.text, b.settings.policy⟩

/-- The report in the output of a run; an output that cannot be read is an empty report. -/
def reportOf (b : Bridge) (mode : Dialect) (output : String) : Report :=
  (mode.read b.context output).toOption.getD .empty

-- ---------------------------------------------------------------------------
-- Reports
-- ---------------------------------------------------------------------------

variable {σ : Type} (h : Host σ)

/-- Carry out a launch. -/
def perform (l : Launch) (w : σ) : Except ValidatorError Outcome × σ :=
  let (r, w) := h.launch l w
  (r.mapError fun e => .spawn (l.program.text ++ ": " ++ e.message), w)

/-- Build the validator. -/
def build (b : Bridge) (w : σ) : Except ValidatorError Unit × Bridge × σ :=
  match perform h b.buildLaunch w with
  | (.error e, w) => (.error e, b, w)
  | (.ok o, w) =>
    if o.exitedWith [0] then (.ok (), { b with memo := .empty, checked := true }, w)
    else (.error (.build o.stderr), b, w)

/-- Make sure that the validator is up to date, once. -/
def refresh (b : Bridge) (w : σ) : Except ValidatorError Unit × Bridge × σ :=
  if b.checked || !b.settings.rebuild then (.ok (), b, w)
  else
    match Freshness.isOutdated (h.disk w) b.directory b.binary with
    | .error e => (.error e, b, w)
    | .ok true => b.build h w
    | .ok false => (.ok (), { b with checked := true }, w)

/-- Run the validator. -/
def invoke (b : Bridge) (mode : Dialect) (w : σ) : Except ValidatorError Outcome × σ :=
  match perform h (b.runLaunch mode) w with
  | (.error e, w) => (.error e, w)
  | (.ok o, w) =>
    if o.exitedWith reportCodes then (.ok o, w)
    else (.error (.invocation o.codeLabel o.stdout o.stderr), w)

/-- The report in a dialect, from memory where it is remembered. -/
def report (b : Bridge) (mode : Dialect) (w : σ) : Except ValidatorError Report × Bridge × σ :=
  match b.memo.get? mode with
  | some r => (.ok r, b, w)
  | none =>
    match b.refresh h w with
    | (.error e, b, w) => (.error e, b, w)
    | (.ok (), b, w) =>
      match b.invoke h mode w with
      | (.error e, w) => (.error e, b, w)
      | (.ok o, w) =>
        let r := b.reportOf mode o.stdout
        (.ok r, { b with memo := b.memo.insert r mode }, w)

/-- The report in the dialect of the settings. -/
def fullReport (b : Bridge) (w : σ) : Except ValidatorError Report × Bridge × σ :=
  b.report h b.settings.dialect w

/-- The cross references. -/
def crossReferences (b : Bridge) (w : σ) : Except ValidatorError CrossReferences × Bridge × σ :=
  match b.report h .json w with
  | (.ok r, b, w) => (.ok r.crossReferences, b, w)
  | (.error e, b, w) => (if b.settings.dialect = .text then .ok ∅ else .error e, b, w)

end Bridge

end SpecCoverage
