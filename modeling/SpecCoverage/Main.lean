-- SUMMARY: The command line: the workspace is read from the disk, the command runs on what was read, and its ending is carried out.
import SpecCoverage.Command.Run
import SpecCoverage.SourceCache

/-!
# The command line

Only this module touches the machine. It takes a snapshot of the files that the command may look at,
runs the command on the snapshot, and then prints and writes what the ending says. It starts no
programs, so every launch of a build tool or a validator is refused.
-/
namespace SpecCoverage.CommandLine

-- ---------------------------------------------------------------------------
-- The snapshot
-- ---------------------------------------------------------------------------

/-- Directories are read to this depth. -/
def depthLimit : Nat := 64

/-- More of a file than this is never looked at, in bytes: every limit on a file is lower. -/
def contentLimit : Nat := SourceCache.sizeLimit + 1

/-- The start of a file, as far as it is looked at. -/
def readStart (path : String) : IO ByteArray :=
  IO.FS.withFile path .read fun h => h.read contentLimit.toUSize

/-- The names that lead to an absolute path. -/
def address (path : String) : Address :=
  Path.parts ⟨path⟩ |>.filterMap fun
    | .name n => some n
    | _ => none

/-- What stands at a path, unless it cannot be read. -/
def readNode (path : String) : IO (Option Node) := do
  try
    let info ← ((← IO.currentDir) / path).symlinkMetadata
    let modified := info.modified.sec * 1000000000 + info.modified.nsec.toNat
    match info.type with
    | .dir => return some (.directory modified)
    | .file => return some (.file (← readStart path) modified false)
    | .symlink => return some (.link ⟨(← IO.FS.realPath path).toString⟩)
    | .other => return none
  catch _ => return none

/-- What stands at a path and below it. -/
def readTree : Nat → String → IO (List (Address × Node))
  | depth, path => do
    match ← readNode path with
    | none => return []
    | some n =>
      let below ← match depth, n with
        | depth + 1, .directory _ =>
          (← ((← IO.currentDir) / path).readDir).toList.flatMapM fun entry =>
            readTree depth entry.path.toString
        | _, _ => pure []
      return (address path, n) :: below

/-- An address and those above it, as directories. -/
def directoriesTo (a : Address) : List (Address × Node) :=
  (List.range (a.length + 1)).map fun n => (a.take n, .directory 0)

/-- Add what stands at a path and below it to a disk that does not have it yet. -/
def addTree (d : Disk) (p : Path) : IO Disk := do
  try
    let place := (← IO.FS.realPath p.text).toString
    let nodes := directoriesTo (address place).dropLast ++ (← readTree depthLimit place) ++
      directoriesTo (address p.text).dropLast ++ [(address p.text, .link ⟨place⟩)]
    return { d with nodes := d.nodes ++ nodes.filter fun (a, _) => (d.node? a).isNone }
  catch _ => return d

/-- The disk as far as a command looks at it: the workspace and the settings files. -/
def snapshot (call : Command.Call) : IO Disk := do
  let here := address (← IO.currentDir).toString
  let start : Disk := ⟨directoriesTo here, here, 0⟩
  let a := (Command.Arguments.read call.arguments).toOption.getD .default
  let named := a.workspace :: (a.config?.toList ++ (call.environment?.map Path.mk).toList)
  (named.filterMap fun p => (start.absolute p).toOption).foldlM addTree start

-- ---------------------------------------------------------------------------
-- The ending
-- ---------------------------------------------------------------------------

/-- A host that starts no programs. -/
def host : Host Disk where
  disk d := d
  launch _ d := (.error .noPermission, d)

/-- Why something could not be printed or written. -/
def cause : IO.Error → FileError
  | .resourceExhausted .. => .noSpace
  | .noFileOrDirectory .. => .notFound
  | _ => .noPermission

/-- Print a text at once. -/
def printNow (text : String) : IO Unit := do
  let out ← IO.getStdout
  out.putStr text
  out.flush

/-- Write the file that the command wrote. -/
def writeFile (p : Path) (text : String) : IO Unit := do
  let file := (← IO.currentDir) / p.text
  if let some directory := file.parent then IO.FS.createDirAll directory
  IO.FS.writeFile file text

end SpecCoverage.CommandLine

open SpecCoverage CommandLine in
/-- The command. -/
def main (arguments : List String) : IO UInt32 := do
  let call : Command.Call := ⟨arguments, ← IO.getEnv Settings.variableName, none⟩
  let disk ← snapshot call
  let ending := (Command.run host call disk).1
  if let some (p, text) := ending.written? then writeFile p text
  IO.eprint ending.stderr
  try
    printNow ending.stdout
    return ending.code.toUInt32
  catch e =>
    let ending := (Command.run host { call with stdoutError? := some (cause e) } disk).1
    IO.eprint ending.stderr
    return ending.code.toUInt32
