-- SUMMARY: Making directories, and writing files.
import SpecCoverage.Disk.Resolve

/-!
# Changing a disk

Each change names what it cannot do. Making a directory makes the directories above it that are
missing, and keeps one that is there.
-/
namespace SpecCoverage.Disk

open Text

/-- Make one directory in a directory that is there. -/
def makeDirectory (d : Disk) (p : Path) : Except FileError Disk :=
  match d.find .entry p with
  | .ok (.missing a) => .ok (d.set a (.directory d.now))
  | .ok (.node ..) => .error .alreadyExists
  | .error e => .error e

/-- The path that parts spell, last part first. -/
def pathOfParts (ps : List Path.Part) : Path :=
  ps.foldr (fun part p => p / ⟨part.text⟩) ⟨""⟩

/-- Make the directory of the parts, last part first, unless it is there. -/
def ensureParts (d : Disk) : List Path.Part → Except FileError Disk
  | [] => .ok d
  | part :: above =>
    let p := pathOfParts (part :: above)
    match d.makeDirectory p with
    | .ok d => .ok d
    | .error .notFound => do
      let d ← ensureParts d above
      match d.makeDirectory p with
      | .ok d => .ok d
      | .error e => if d.isDirectory p then .ok d else .error e
    | .error e => if d.isDirectory p then .ok d else .error e

/-- The parts of the directory that holds a path, last part first. -/
def partsAbove (p : Path) : List Path.Part :=
  match p.parts.reverse with
  | [.root] => []
  | ps => ps.drop 1

/-- Write a file in a directory that is there. -/
def write (d : Disk) (p : Path) (content : ByteArray) : Except FileError Disk :=
  match d.find .file p with
  | .ok (.missing a) => .ok (d.set a (.file content d.now false))
  | .ok (.node a (.file _ _ executable)) => .ok (d.set a (.file content d.now executable))
  | .ok (.node ..) => .error .isADirectory
  | .error e => .error e

/-- Mark a file or directory as changed at a time. -/
def touch (d : Disk) (p : Path) (t : Time) : Disk :=
  match d.stat p with
  | .ok (a, .file content _ executable) => d.set a (.file content t executable)
  | .ok (a, .directory _) => d.set a (.directory t)
  | _ => d

end SpecCoverage.Disk
