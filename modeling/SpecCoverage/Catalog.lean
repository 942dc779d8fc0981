-- SUMMARY: The catalog of features: finding, reading and caching specification files.
import SpecCoverage.Declaration.Scan
import SpecCoverage.Feature.Reader
import SpecCoverage.Folder
import SpecCoverage.Matrix.Build
import SpecCoverage.SourceCache

/-!
# The catalog

A catalog reads the specification files below a directory in the order of their paths, and test
sources for the lines of tests. Both go through one cache, so each file is read at most once.
-/
namespace SpecCoverage

/-- A file of the catalog that cannot be read, under its path relative to the root. -/
structure CatalogError where
  path : String
  cause : FileError
  deriving DecidableEq

def CatalogError.message (e : CatalogError) : String :=
  "cannot read " ++ e.path ++ ": " ++ e.cause.message

/-- The features below a root, and the files read so far. -/
structure Catalog where
  root : Path
  policy : LanguagePolicy
  cache : SourceCache

namespace Catalog

def start (root : Path) (policy : LanguagePolicy) : Catalog := ⟨root, policy, .empty⟩

def clear (c : Catalog) : Catalog := { c with cache := .empty }

/-- The path under which reports show a file. -/
def relative (c : Catalog) (p : Path) : String :=
  Path.relativeTo c.root p

-- ---------------------------------------------------------------------------
-- Files
-- ---------------------------------------------------------------------------

/-- The text of a file. -/
def sourceText (c : Catalog) (d : Disk) (p : Path) : Except CatalogError String × Catalog :=
  let (text, cache) := c.cache.read d (c.root / p)
  (text.mapError fun e => ⟨c.relative p, e⟩, { c with cache := cache })

/-- The feature in a file. -/
def loadFile (c : Catalog) (d : Disk) (p : Path) (folder : String) :
    Except CatalogError Feature × Catalog :=
  let (text, c') := c.sourceText d p
  (text.map fun t => Feature.read c.policy (c.relative p) folder t, c')

/-- The extension of specification files. -/
def extension : String := "feature"

/-- The specification files below a directory, in the order of their paths. -/
def featureFiles (d : Disk) (root : Path) : List Path :=
  let names := (d.filesBelow root).map (·.1)
  let found := names.filter fun ns => (ns.getLast?.bind fun n => Path.extension? ⟨n⟩) = some extension
  (found.mergeSort fun a b => (compare a b).isLE).map (Disk.pathBelow root)

/-- Load one more file; a file that cannot be read is passed over. -/
def loadNext (d : Disk) (root : Path) (loaded : List Feature × Catalog) (file : Path) :
    List Feature × Catalog :=
  match loaded.2.loadFile d file (Folder.ofFile root file) with
  | (.ok f, c) => (loaded.1 ++ [f], c)
  | (.error _, c) => (loaded.1, c)

/-- The features below a directory, none where there is no such directory. -/
def load (c : Catalog) (d : Disk) (directory : Path) : List Feature × Catalog :=
  let root := c.root / directory
  (featureFiles d root).foldl (loadNext d root) ([], c)

-- ---------------------------------------------------------------------------
-- Lines of tests
-- ---------------------------------------------------------------------------

/-- The lines of the tests of scenarios in a source file; a file that cannot be read has none. -/
def linesIn (d : Disk) : LineFinder Catalog := fun source scenarios c =>
  let (text, c) := c.sourceText d ⟨source⟩
  (match text with
    | .ok t => Declaration.linesFor scenarios t
    | .error _ => ∅, c)

/-- The matrix of features, with the lines of tests found in the sources that the verdicts name, and
the catalog after these have been read. -/
def matrix (c : Catalog) (d : Disk) (features : List Feature) (verdicts : List FeatureVerdict)
    (crossReferences : CrossReferences) : Matrix × Catalog :=
  (Matrix.build (linesIn d) c.policy features verdicts crossReferences).run c

end Catalog

end SpecCoverage
