-- SUMMARY: Following paths on a disk, and reading what they lead to.
import SpecCoverage.Disk.Basic

/-!
# Following paths

A path is followed piece by piece. Only a directory can be passed through, a link stands for what it
leads to, and a slash or a dot at the end asks for a directory.
-/
namespace SpecCoverage.Disk

open Text

-- ---------------------------------------------------------------------------
-- Steps
-- ---------------------------------------------------------------------------

/-- One step on the way along a path. -/
inductive Step where
  /-- A slash that no name follows: stay where a directory has to be. -/
  | slash
  /-- Stay where a directory has to be. -/
  | stay
  | up
  | enter (name : String)
  deriving DecidableEq

def Step.ofPiece (piece : String) : Step :=
  if piece = "" then .slash
  else if piece = "." then .stay
  else if piece = ".." then .up
  else .enter piece

def stepsOf (p : Path) : List Step :=
  p.pieces.map Step.ofPiece

/-- What a path is followed for. -/
inductive Aim where
  /-- What stands under the last name, be it a link. -/
  | entry
  /-- What the path leads to. -/
  | target
  /-- A file to write where the path leads. A last name with slashes after it is refused. -/
  | file
  deriving DecidableEq

/-- Where a way ends. -/
inductive Found where
  | node (a : Address) (n : Node)
  /-- The directory is there, but nothing of the last name in it. -/
  | missing (a : Address)

/-- Names take at most this many bytes. -/
def nameLimit : Nat := 255

/-- Paths take fewer bytes than this. -/
def pathLimit : Nat := 4096

/-- Where a relative or absolute path starts. -/
def origin (base : Address) (p : Path) : Address :=
  if p.isAbsolute then [] else base

/-- Walk from `a`. Links are left to `onLink`, which is given where to go on and the steps left; one
at the end is an entry by itself. -/
def walkSteps (d : Disk) (aim : Aim) (onLink : Address → List Step → Except FileError Found) :
    Address → List Step → Except FileError Found
  | a, [] =>
    match d.node? a with
    | some n => .ok (.node a n)
    | none => .error .notFound
  | a, s :: rest =>
    match d.node? a with
    | none => .error .notFound
    | some (.directory _) =>
      match s with
      | .slash | .stay => walkSteps d aim onLink a rest
      | .up => walkSteps d aim onLink a.dropLast rest
      | .enter name =>
        if aim = .file && !rest.isEmpty && rest.all (· = .slash) then .error .isADirectory
        else if name.utf8ByteSize > nameLimit then .error .nameTooLong
        else
          let b := a ++ [name]
          match d.node? b with
          | none => if rest.isEmpty then .ok (.missing b) else .error .notFound
          | some (.link target) =>
            if rest.isEmpty && aim = .entry then .ok (.node b (.link target))
            else onLink (origin a target) (stepsOf target ++ rest)
          | some _ => walkSteps d aim onLink b rest
    | some _ => .error .notADirectory

/-- Walk from `a`, following at most `links` links. -/
def walk (d : Disk) (aim : Aim) : Nat → Address → List Step → Except FileError Found
  | 0 => walkSteps d aim fun _ _ => .error .tooManyLinks
  | links + 1 => walkSteps d aim (walk d aim links)

/-- At most so many links are followed on one way. -/
def linkLimit : Nat := 40

/-- Where a path leads. -/
def find (d : Disk) (aim : Aim) (p : Path) : Except FileError Found :=
  if p.text.toList.contains '\x00' then .error .endInPath
  else if p.text = "" then .error .notFound
  else if p.text.utf8ByteSize ≥ pathLimit then .error .nameTooLong
  else walk d aim linkLimit (origin d.current p) (stepsOf p)

-- ---------------------------------------------------------------------------
-- Reading
-- ---------------------------------------------------------------------------

/-- What a path leads to, links followed. -/
def stat (d : Disk) (p : Path) : Except FileError (Address × Node) :=
  match d.find .target p with
  | .ok (.node a n) => .ok (a, n)
  | .ok (.missing _) => .error .notFound
  | .error e => .error e

def isDirectory (d : Disk) (p : Path) : Bool :=
  match d.stat p with
  | .ok (_, n) => n.isDirectory
  | .error _ => false

def isFile (d : Disk) (p : Path) : Bool :=
  match d.stat p with
  | .ok (_, n) => n.isFile
  | .error _ => false

/-- When what a path leads to was last changed. -/
def modified (d : Disk) (p : Path) : Except FileError Time :=
  (d.stat p).map fun (_, n) => n.modified?.getD d.now

/-- The content of a file. -/
def read (d : Disk) (p : Path) : Except FileError ByteArray :=
  match d.stat p with
  | .ok (_, .file content ..) => .ok content
  | .ok _ => .error .isADirectory
  | .error e => .error e

/-- The path of the names below a directory. -/
def pathBelow (root : Path) (names : List String) : Path :=
  names.foldl (fun p name => p / ⟨name⟩) root

/-- The files at any depth below a directory, with the times of their last changes. Links below it
are neither files nor followed. -/
def filesBelow (d : Disk) (root : Path) : List (List String × Time) :=
  match d.stat root with
  | .ok (a, .directory _) =>
    (d.below a).filterMap fun (names, n) =>
      match n with
      | .file _ t _ => some (names, t)
      | _ => none
  | _ => []

-- ---------------------------------------------------------------------------
-- Absolute paths
-- ---------------------------------------------------------------------------

/-- The path from the root: dots and repeated slashes left out, `..` and a slash at the end kept. Two
slashes at the front, and no more, stay two. -/
def absolute (d : Disk) (p : Path) : Except FileError Path :=
  if p.text = "" then .error .emptyPath
  else
    let s := p.text.toList
    let front : Path :=
      if !p.isAbsolute then d.current.path
      else if startsWith ['/', '/'] s && !startsWith ['/', '/', '/'] s then ⟨"//"⟩
      else ⟨"/"⟩
    let inner := p.parts.filter fun part => part ≠ .root && part ≠ .here
    let joined := inner.foldl (fun q part => q / ⟨part.text⟩) front
    .ok (if endsWith ['/'] s then joined / ⟨""⟩ else joined)

end SpecCoverage.Disk
