-- SUMMARY: The command: from its arguments to what it prints, writes and returns.
import SpecCoverage.Command.Arguments
import SpecCoverage.Disk.Change
import SpecCoverage.Message
import SpecCoverage.Pipeline
import SpecCoverage.Settings.Load

/-!
# The command

The command loads the settings of a workspace, makes the report, and prints it or writes it to a
file. A table is printed unless a file is named; a page is always written to a file. Whatever goes
wrong is one line on the error stream and a code other than zero. A table that cannot be filled up
stops the program.
-/
namespace SpecCoverage.Command

open Message

def version : String := "0.1.0"

/-- How the command was called. -/
structure Call where
  arguments : List String
  /-- What the environment names as settings file. -/
  environment? : Option String
  /-- Why nothing can be printed, if nothing can. -/
  stdoutError? : Option FileError

/-- How the command ended. -/
structure Ending where
  code : Nat
  stdout : String
  stderr : String
  /-- The file that was written, and what was written to it. -/
  written? : Option (Path × String)
  disk : Disk

def helpText : String := String.join <| [
  "Generate a Universal Driver test coverage report",
  "",
  "Usage: ud-coverage [OPTIONS]",
  "",
  "Options:",
  "  -w, --workspace <DIR>  Workspace root containing specifications and driver tests [default: .]",
  "  -f, --format <FORMAT>  Output format [possible values: table, html]",
  "  -o, --output <PATH>    Output file; tables default to stdout, pages to a configured file",
  "      --config <PATH>    Configuration file",
  "      --mode <MODE>      Validator output dialect [possible values: json, text]",
  "  -v, --verbose          Enable debug logging",
  "      --version          Print the version and exit",
  "  -h, --help             Print help"].map (· ++ "\n")

def misuseText : String :=
  "error: these arguments are not understood; see 'ud-coverage --help'\n"

-- ---------------------------------------------------------------------------
-- Steps that can fail
-- ---------------------------------------------------------------------------

/-- The directory that the report is made for. -/
def resolveWorkspace (d : Disk) (p : Path) : Except String Path :=
  match d.absolute p with
  | .error e =>
    .error (translate "workspace.resolve_failed" [("path", p.text), ("error", e.message)])
  | .ok p =>
    if d.isDirectory p then .ok p
    else .error (translate "workspace.not_a_directory" [("path", p.text)])

/-- The request that arguments and settings make. -/
def request (d : Disk) (c : Call) (a : Arguments) : Except String ReportRequest := do
  let workspace ← resolveWorkspace d a.workspace
  match Settings.load d a.config? c.environment? workspace with
  | .error e => .error (translate "config.load_failed" [("error", e.message)])
  | .ok s =>
    return ⟨workspace, s, a.presentation?.getD s.report.presentation,
      a.dialect?.getD s.validator.dialect⟩

/-- The file for the report; a table without one is printed. -/
def target? (r : ReportRequest) (a : Arguments) : Option Path :=
  match r.presentation, a.output? with
  | _, some p => some p
  | .table, none => none
  | .html, none => some (r.settings.htmlOutput r.workspace)

/-- Write the report to its file, making the directories above it. -/
def writeReport (d : Disk) (p : Path) (text : String) : Except String Disk :=
  match (d.ensureParts (Disk.partsAbove p)).bind fun d => d.write p text.toUTF8 with
  | .ok d => .ok d
  | .error e => .error (translate "report.file_failed" [("path", p.text), ("error", e.message)])

-- ---------------------------------------------------------------------------
-- Endings
-- ---------------------------------------------------------------------------

/-- The command fails with a message. -/
def fail (d : Disk) (written? : Option (Path × String)) (message : String) : Ending :=
  ⟨1, "", message ++ "\n", written?, d⟩

/-- What the notice of a stopped program says of the reason. -/
def stopText : String := "Formatting argument out of range\n"

/-- The program stops before it prints or writes anything. -/
def stop (d : Disk) : Ending :=
  ⟨101, "", stopText, none, d⟩

/-- The command prints its last text. -/
def print (c : Call) (d : Disk) (written? : Option (Path × String)) (text : String) : Ending :=
  match c.stdoutError? with
  | none => ⟨0, text, "", written?, d⟩
  | some e =>
    fail d written? <| translate "output.write_failed"
      [("stream", translate "output.stream.stdout" []), ("error", e.message)]

/-- The report is printed or written. -/
def deliver (c : Call) (a : Arguments) (r : ReportRequest) (d : Disk) (text : String) : Ending :=
  match target? r a with
  | none => print c d none text
  | some p =>
    match writeReport d p text with
    | .error message => fail d none message
    | .ok d =>
      print c d (some (p, text)) <|
        translate "report.written" [("format", r.presentation.label), ("path", p.text)] ++ "\n"

variable {σ : Type} (h : Host σ)

/-- Run the command with arguments that were understood. -/
def runWith (c : Call) (a : Arguments) (w : σ) : Ending × σ :=
  let d := h.disk w
  if a.showVersion then
    (print c d none (translate "main.version" [("version", version)] ++ "\n"), w)
  else
    match request d c a with
    | .error message => (fail d none message, w)
    | .ok r =>
      match r.run h w with
      | (.error e, w) =>
        (fail (h.disk w) none (translate "report.failed" [("error", e.message)]), w)
      | (.ok report, w) =>
        match report.text? with
        | some text => (deliver c a r (h.disk w) text, w)
        | none => (stop (h.disk w), w)

/-- Run the command. -/
def run (c : Call) (w : σ) : Ending × σ :=
  match Arguments.read c.arguments with
  | .ok a => runWith h c a w
  | .error .help => (⟨0, helpText, "", none, h.disk w⟩, w)
  | .error .misuse => (⟨2, "", misuseText, none, h.disk w⟩, w)

end SpecCoverage.Command
