-- SUMMARY: Slash-separated paths: their parts, joining, prefixes, names and extensions.
import SpecCoverage.Text.Blank
import SpecCoverage.Text.Cut

/-!
# Paths

A path is kept as it is written. Its *parts* leave out what does not matter: repeated slashes, a
slash at the end, and `.` anywhere but at the front. Two spellings with the same parts name the
same path; `..` is a part of its own and is never folded away.
-/
namespace SpecCoverage

open Text

/-- A path as it is written. -/
structure Path where
  text : String
  deriving DecidableEq, Inhabited

namespace Path

inductive Part where
  | root
  | here
  | up
  | name (n : String)
  deriving DecidableEq, Inhabited

def Part.text : Part → String
  | .root => "/"
  | .here => "."
  | .up => ".."
  | .name n => n

def Part.isName : Part → Bool
  | .name _ => true
  | _ => false

-- ---------------------------------------------------------------------------
-- Parts
-- ---------------------------------------------------------------------------

/-- The pieces between the slashes, empty ones included. -/
def pieces (p : Path) : List String :=
  (splitAtChars (· == '/') p.text.toList).map String.ofList

/-- The part a piece stands for, once the front of the path is passed. -/
def partOfPiece? (piece : String) : Option Part :=
  if piece = "" || piece = "." then none
  else if piece = ".." then some .up
  else some (.name piece)

def isAbsolute (p : Path) : Bool :=
  startsWith ['/'] p.text.toList

def parts (p : Path) : List Part :=
  let inner := p.pieces.filterMap partOfPiece?
  if p.isAbsolute then .root :: inner
  else if p.pieces.head? = some "." then .here :: inner
  else inner

-- ---------------------------------------------------------------------------
-- Joining
-- ---------------------------------------------------------------------------

/-- Continue `p` with `q`. An absolute `q` stands for itself; otherwise a slash is put between them
unless `p` is empty or ends with one. -/
def join (p q : Path) : Path :=
  if q.isAbsolute then q
  else if p.text = "" || endsWith ['/'] p.text.toList then ⟨p.text ++ q.text⟩
  else ⟨p.text ++ "/" ++ q.text⟩

instance : Div Path := ⟨join⟩

-- ---------------------------------------------------------------------------
-- Prefixes and names
-- ---------------------------------------------------------------------------

/-- What follows `front` in a list of parts. -/
def dropParts? : List Part → List Part → Option (List Part)
  | [], ps => some ps
  | _ :: _, [] => none
  | a :: front, p :: ps => if a = p then dropParts? front ps else none

/-- The parts of `p` below `base`. -/
def below? (base p : Path) : Option (List Part) :=
  dropParts? base.parts p.parts

/-- The last part, if it is a name. -/
def lastName? (ps : List Part) : Option String :=
  match ps.getLast? with
  | some (.name n) => some n
  | _ => none

def fileName? (p : Path) : Option String :=
  lastName? p.parts

/-- What follows the last dot of the file name. A dot at its front opens no extension. -/
def extension? (p : Path) : Option String :=
  p.fileName?.bind fun n =>
    match beforeLast? (· == '.') n.toList with
    | none | some [] => none
    | some _ => some (String.ofList (afterLast (· == '.') n.toList))

/-- The parts with a slash between each two, a `.` at the front left out. -/
def slashed (ps : List Part) : String :=
  "/".intercalate ((ps.filter (· ≠ .here)).map Part.text)

/-- `p` relative to `root` where it lies below it, with single slashes. -/
def relativeTo (root p : Path) : String :=
  slashed (if p.isAbsolute then (below? root p).getD p.parts else p.parts)

end Path

end SpecCoverage
