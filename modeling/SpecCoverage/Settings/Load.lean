-- SUMMARY: Finding the settings file of a workspace and loading it.
import SpecCoverage.Disk.Resolve
import SpecCoverage.Settings.Document

/-!
# Loading settings

The file that the command names comes first, then the one that the environment names, then the
workspace's own; without any of them the defaults hold.
-/
namespace SpecCoverage.Settings

open Text

/-- The settings file of a workspace. -/
def fileName : Path := ⟨"ud-coverage.toml"⟩

/-- The variable of the environment that names a settings file. -/
def variableName : String := "UD_COVERAGE_CONFIG"

/-- Larger files are refused, in bytes. -/
def sizeLimit : Nat := 256 * 1024

/-- The settings file to be loaded, if there is one. -/
def locate (d : Disk) (path? : Option Path) (environment? : Option String) (workspace : Path) :
    Except SettingsError (Option Path) :=
  match path? with
  | some p => .ok (some p)
  | none =>
    match (environment?.map fun v => String.ofList (trim v.toList)).filter (· ≠ "") with
    | some v =>
      if v.utf8ByteSize > pathLimit then .error (.field "config path" .tooLong)
      else .ok (some ⟨v⟩)
    | none =>
      let p := workspace / fileName
      .ok (if d.isFile p then some p else none)

/-- Load the settings in a file. -/
def loadFile (d : Disk) (p : Path) : Except SettingsError Settings := do
  refuseIf (p.text.utf8ByteSize > pathLimit) (.field "config path" .tooLong)
  refuseIf (hasLongPart p) (.field "config" .partTooLong)
  let content ← (d.read p).mapError fun e => .files (p.text ++ ": " ++ e.message)
  refuseIf (content.size > sizeLimit) .tooLarge
  match String.fromUTF8? content with
  | none => .error .notText
  | some text => (read text).map fun s => { s with source? := some p }

/-- The settings of a workspace. -/
def load (d : Disk) (path? : Option Path) (environment? : Option String) (workspace : Path) :
    Except SettingsError Settings := do
  match ← locate d path? environment? workspace with
  | some p => loadFile d p
  | none => (check default).map fun _ => default

end SpecCoverage.Settings
