-- SUMMARY: The folder under which a feature is listed, and folder names as headings.
import SpecCoverage.Path
import SpecCoverage.Text.Case

/-!
# Folders

A feature is listed under the directory that holds its file, and those right below the root of the
specifications under a folder of their own. A folder is shown under its words, each capitalized;
underscores and spaces part words.
-/
namespace SpecCoverage.Folder

open Text

/-- The folder of files that no directory below the root holds. -/
def unfiled : String := "other"

/-- The folder of a file below the root of the specifications. -/
def ofFile (root file : Path) : String :=
  match root.below? file with
  | none => unfiled
  | some ps =>
    if (ps.filter (·.isName)).length < 2 then unfiled
    else (Path.lastName? ps.dropLast).getD unfiled

/-- The title of a folder. -/
def title (folder : String) : String :=
  " ".intercalate <|
    ((splitAtChars (fun c => c == '_' || c == ' ') folder.toList).filter (!·.isEmpty)).map
      fun w => String.ofList (capitalize w)

/-- The title in upper case. -/
def banner (folder : String) : String :=
  String.ofList (upper (title folder).toList)

end SpecCoverage.Folder
