-- SUMMARY: Whether the validator binary is older than what it is built from.
import SpecCoverage.Disk.Resolve
import SpecCoverage.Report.Basic

/-!
# Freshness

The binary is out of date when it is not there, or when the manifest, the lock file or any file below
the source directory was changed after it. Inputs that are not there do not count.
-/
namespace SpecCoverage.Freshness

/-- The files beside the sources that the binary is built from. -/
def rootInputs : List Path := [⟨"Cargo.toml"⟩, ⟨"Cargo.lock"⟩]

def sourceDirectory : Path := ⟨"src"⟩

/-- The error of a file that cannot be examined. -/
def filesError (p : Path) (e : FileError) : ValidatorError :=
  .files (p.text ++ ": " ++ e.message)

/-- When a file was last changed, if it is there. -/
def modified? (d : Disk) (p : Path) : Except ValidatorError (Option Time) :=
  match d.modified p with
  | .ok t => .ok (some t)
  | .error .notFound => .ok none
  | .error e => .error (filesError p e)

/-- Is one of the files newer than `built`? They are examined in order up to the first that is. -/
def anyNewer (d : Disk) (built : Time) : List Path → Except ValidatorError Bool
  | [] => .ok false
  | p :: ps => do
    let time ← modified? d p
    if time.any (built < ·) then .ok true else anyNewer d built ps

/-- The error of a directory that cannot be listed. -/
def listingError (p : Path) (e : FileError) : ValidatorError :=
  .files ("IO error for operation on " ++ p.text ++ ": " ++ e.message)

/-- Is a file below a directory newer than `built`? What stands there is examined in order up to the
first file that is; a link is not followed. -/
def anyNewerBelow (d : Disk) (built : Time) (root : Path) :
    List (List String × Node) → Except ValidatorError Bool
  | [] => .ok false
  | (names, n) :: rest =>
    let p := Disk.pathBelow root names
    match n with
    | .link _ => anyNewerBelow d built root rest
    | .directory _ =>
      match d.stat p with
      | .ok _ => anyNewerBelow d built root rest
      | .error e => .error (listingError p e)
    | .file .. =>
      match d.modified p with
      | .ok time => if built < time then .ok true else anyNewerBelow d built root rest
      | .error e => .error (filesError p e)

/-- Does the binary of the validator in a directory have to be built? -/
def isOutdated (d : Disk) (directory binary : Path) : Except ValidatorError Bool := do
  match ← modified? d binary with
  | none => .ok true
  | some built =>
    if ← anyNewer d built (rootInputs.map (directory / ·)) then .ok true
    else
      let sources := directory / sourceDirectory
      match d.stat sources with
      | .ok (a, .directory _) => anyNewerBelow d built sources (d.below a)
      | _ => .ok false

end SpecCoverage.Freshness
