-- SUMMARY: The texts of files that have been read, each read once.
import SpecCoverage.Disk.Resolve
import SpecCoverage.Text.Utf8

/-!
# The source cache

A file is read once and its text kept under the parts of its absolute path, so spellings that differ
in dots and repeated slashes share one entry. What cannot be read is not remembered.
-/
namespace SpecCoverage

/-- The texts read so far. -/
structure SourceCache where
  entries : List (List Path.Part × String)

namespace SourceCache

def empty : SourceCache := ⟨[]⟩

instance : Inhabited SourceCache := ⟨empty⟩

def size (c : SourceCache) : Nat := c.entries.length

def isEmpty (c : SourceCache) : Bool := c.entries.isEmpty

/-- Larger files are not read, in bytes. -/
def sizeLimit : Nat := 8 * 1024 * 1024

/-- The absolute spelling of a path; an absolute path stays as it is written. -/
def absolute (d : Disk) (p : Path) : Except FileError Path :=
  if p.isAbsolute then .ok p else d.absolute p

/-- The text of a file as the disk has it. -/
def readText (d : Disk) (p : Path) : Except FileError String := do
  let (_, n) ← d.stat p
  match n with
  | .file content .. =>
    if content.size > sizeLimit then .error (.tooLarge sizeLimit)
    else .ok (Text.Utf8.text content)
  | _ => .error .isADirectory

/-- The text of a file, from the cache where it has been read before. -/
def read (c : SourceCache) (d : Disk) (p : Path) : Except FileError String × SourceCache :=
  match absolute d p with
  | .error e => (.error e, c)
  | .ok p =>
    match c.entries.lookup p.parts with
    | some text => (.ok text, c)
    | none =>
      match readText d p with
      | .ok text => (.ok text, ⟨(p.parts, text) :: c.entries⟩)
      | .error e => (.error e, c)

end SourceCache

end SpecCoverage
