-- SUMMARY: The messages of the command and how their placeholders are filled.
import SpecCoverage.Text.Cut

/-!
# Messages

A message is a template with placeholders in braces. Arguments are put in one after the other, each
in the place of every placeholder with its name; placeholders without an argument stay.
-/
namespace SpecCoverage.Message

/-- The templates by key. -/
def catalog : List (String × String) := [
  ("main.version", "ud-coverage {version}"),
  ("workspace.resolve_failed", "Failed to resolve workspace {path}: {error}"),
  ("workspace.not_a_directory", "Workspace {path} is not a directory"),
  ("config.load_failed", "Failed to load configuration: {error}"),
  ("logging.init_failed", "Failed to initialize logging: {error}"),
  ("report.failed", "Coverage report failed: {error}"),
  ("report.written", "{format} report generated: {path}"),
  ("report.file_failed", "Failed to write report to {path}: {error}"),
  ("output.write_failed", "Failed to write to {stream}: {error}"),
  ("output.stream.stdout", "stdout"),
  ("output.stream.stderr", "stderr"),
  ("output.stream.unknown", "output")]

/-- The placeholder of an argument. -/
def placeholder (name : String) : String :=
  String.ofList ('{' :: (name.toList ++ ['}']))

/-- Put a value in the place of every placeholder of a name. -/
def fill (text : String) (argument : String × String) : String :=
  String.ofList <|
    Text.replace (placeholder argument.1).toList argument.2.toList text.toList

/-- The message of a key. A key that is not in the catalog is its own template. -/
def translate (key : String) (arguments : List (String × String)) : String :=
  arguments.foldl fill ((catalog.lookup key).getD key)

end SpecCoverage.Message
