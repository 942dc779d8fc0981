-- SUMMARY: A disk: what stands at each address, and why a file cannot be used.
import SpecCoverage.Path

/-!
# Disks

A disk says what stands at each address, the list of names that lead there from the root. Links are
kept as they are written and followed by `Disk/Resolve.lean`.
-/
namespace SpecCoverage

/-- The names that lead to a place from the root. -/
abbrev Address := List String

/-- The address as an absolute path. -/
def Address.path (a : Address) : Path :=
  ⟨"/" ++ "/".intercalate a⟩

/-- A time as the clock counts it. -/
abbrev Time := Int

/-- Why a file cannot be used. -/
inductive FileError where
  | notFound
  | badFormat
  | noPermission
  | alreadyExists
  | notADirectory
  | isADirectory
  | noSpace
  | nameTooLong
  | tooManyLinks
  /-- A path holds the character that ends texts for the system. -/
  | endInPath
  /-- The same in what a program is launched with. -/
  | endInLaunch
  | emptyPath
  | tooLarge (limit : Nat)
  deriving DecidableEq

namespace FileError

/-- The number under which the system knows the error. -/
def number? : FileError → Option Nat
  | .notFound => some 2
  | .badFormat => some 8
  | .noPermission => some 13
  | .alreadyExists => some 17
  | .notADirectory => some 20
  | .isADirectory => some 21
  | .noSpace => some 28
  | .nameTooLong => some 36
  | .tooManyLinks => some 40
  | .endInPath | .endInLaunch | .emptyPath | .tooLarge _ => none

def text : FileError → String
  | .notFound => "No such file or directory"
  | .badFormat => "Exec format error"
  | .noPermission => "Permission denied"
  | .alreadyExists => "File exists"
  | .notADirectory => "Not a directory"
  | .isADirectory => "Is a directory"
  | .noSpace => "No space left on device"
  | .nameTooLong => "File name too long"
  | .tooManyLinks => "Too many levels of symbolic links"
  | .endInPath => "file name contained an unexpected NUL byte"
  | .endInLaunch => "nul byte found in provided data"
  | .emptyPath => "cannot make an empty path absolute"
  | .tooLarge limit => "file exceeds " ++ toString limit ++ " bytes"

def message (e : FileError) : String :=
  match e.number? with
  | some n => e.text ++ " (os error " ++ toString n ++ ")"
  | none => e.text

end FileError

/-- What stands at an address. -/
inductive Node where
  | file (content : ByteArray) (modified : Time) (executable : Bool)
  | directory (modified : Time)
  | link (target : Path)

namespace Node

def isFile : Node → Bool
  | .file .. => true
  | _ => false

def isDirectory : Node → Bool
  | .directory _ => true
  | _ => false

def modified? : Node → Option Time
  | .file _ t _ | .directory t => some t
  | .link _ => none

end Node

/-- A disk as one program sees it. -/
structure Disk where
  nodes : List (Address × Node)
  /-- The directory at which relative paths start. -/
  current : Address
  /-- The time that changes are marked with. -/
  now : Time

namespace Disk

/-- What stands at an address. The root is always there. -/
def node? (d : Disk) (a : Address) : Option Node :=
  if a = [] then some (.directory d.now) else d.nodes.lookup a

/-- The names below an address, with what stands there. -/
def below (d : Disk) (a : Address) : List (List String × Node) :=
  d.nodes.filterMap fun (b, n) =>
    if a <+: b && a ≠ b then some (b.drop a.length, n) else none

/-- Put a node at an address in the place of what stood there. -/
def set (d : Disk) (a : Address) (n : Node) : Disk :=
  { d with nodes := d.nodes.filter (·.1 ≠ a) ++ [(a, n)] }

/-- Take away what stands at an address and below it. -/
def erase (d : Disk) (a : Address) : Disk :=
  { d with nodes := d.nodes.filter fun (b, _) => !decide (a <+: b) }

end Disk

end SpecCoverage
