-- SUMMARY: The coverage matrix as a plain-text table.
import SpecCoverage.Folder
import SpecCoverage.Matrix.Basic

/-!
# The text table

One line per feature under a line for its folder. The first column is as wide as the longest title
in it; all language columns are equally wide. Where a column is too wide to be filled up, there is
no table.
-/
namespace SpecCoverage.Table

open Text

def featureHeader : String := "Feature"

/-- Shown for a matrix without rows or languages. -/
def emptyText : String := "No features found.\n"

/-- Language columns are at least this wide. -/
def leastLanguageWidth : Nat := 8

/-- Feature lines are indented by this much. -/
def indent : Nat := 2

/-- Text is filled up to a width of 16 bits at most. -/
def widthLimit : Nat := 65535

def width (s : String) : Nat := s.toList.length

/-- Text with the spaces on the right that it lacks. -/
def filled (w : Nat) (s : String) : List Char :=
  s.toList ++ List.replicate (w - s.toList.length) ' '

/-- Fill up with spaces on the right. A width above the limit stops the program. -/
def pad? (w : Nat) (s : String) : Option (List Char) :=
  if w ≤ widthLimit then some (filled w s) else none

theorem length_filled {w : Nat} {s : String} (h : width s ≤ w) : (filled w s).length = w := by
  simp only [filled, width, List.length_append, List.length_replicate] at h ⊢
  omega

/-- The widths of the columns. -/
structure Layout where
  feature : Nat
  language : Nat
  /-- How many language columns there are. -/
  columns : Nat

namespace Layout

def ofMatrix (m : Matrix) : Layout where
  feature :=
    (m.rows.map (fun r => width r.feature.title + indent) ++
      m.folders.keys.map (fun f => width (Folder.title f))).foldl max (width featureHeader)
  language := (m.languages.map fun l => width l.label).foldl max leastLanguageWidth
  columns := m.languages.length

/-- The width of the whole table. -/
def total (l : Layout) : Nat :=
  l.feature + l.columns * (l.language + 3)

end Layout

-- ---------------------------------------------------------------------------
-- Lines
-- ---------------------------------------------------------------------------

/-- The status of a feature for a language. -/
def cell (r : Row) (l : Language) : String :=
  match r.result? l with
  | some res => if res.implemented then Status.pass.label else Status.fail.label
  | none => "N/A"

/-- A front, and a cell behind each separator. -/
def ruledLine (front separator : List Char) (cells : List (List Char)) : List Char :=
  front ++ cells.flatMap fun c => separator ++ c

def headerLine? (w : Layout) (languages : List Language) : Option (List Char) := do
  let front ← pad? w.feature featureHeader
  let cells ← languages.mapM fun l => pad? w.language l.label
  return ruledLine front " | ".toList cells

def ruleLine (w : Layout) (languages : List Language) : List Char :=
  ruledLine (List.replicate w.feature '-') "-|-".toList
    (languages.map fun _ => List.replicate w.language '-')

def folderLine (w : Layout) (folder : String) : List Char :=
  let banner := (Folder.banner folder).toList
  "=== ".toList ++ banner ++ [' '] ++ List.replicate (w.total - (banner.length + 4)) '='

def rowLine? (w : Layout) (languages : List Language) (r : Row) : Option (List Char) := do
  let front ← pad? (w.feature - indent) r.feature.title
  let cells ← languages.mapM fun l => pad? w.language (cell r l)
  return ruledLine (List.replicate indent ' ' ++ front) " | ".toList cells

/-- The line of a folder and those of its features. -/
def folderLines? (w : Layout) (languages : List Language) (folder : String) (rows : List Row) :
    Option (List (List Char)) := do
  let lines ← rows.mapM (rowLine? w languages)
  return folderLine w folder :: lines

/-- All lines of the table. -/
def lines? (m : Matrix) : Option (List (List Char)) := do
  let w := Layout.ofMatrix m
  let header ← headerLine? w m.languages
  let parts ← m.folders.entries.mapM fun (folder, rows) => folderLines? w m.languages folder rows
  return header :: ruleLine w m.languages :: parts.flatten

/-- The table as text. -/
def render? (m : Matrix) : Option String :=
  if m.isEmpty then some emptyText
  else (lines? m).map fun lines => String.ofList (lines.flatMap fun line => line ++ ['\n'])

end SpecCoverage.Table
