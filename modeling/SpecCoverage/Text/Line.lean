-- SUMMARY: Splitting a text into its lines.
import SpecCoverage.Text.Blank

/-!
# Lines

A line ends at a line feed, and a carriage return just before the line feed belongs to the ending.
Text after the last line feed is a line of its own only if there is any.
-/
namespace SpecCoverage.Text

/-- Drop a carriage return at the end. -/
def dropReturn (s : List Char) : List Char :=
  match s.reverse with
  | '\r' :: r => r.reverse
  | _ => s

/-- The lines that pieces between line feeds make: all but the last are closed by one, and the last
counts if there is anything in it. -/
def closeLines (pieces : List (List Char)) : List (List Char) :=
  pieces.dropLast.map dropReturn ++ pieces.getLast?.toList.filter (!·.isEmpty)

def lines (s : List Char) : List (List Char) :=
  closeLines (splitAtChars (· == '\n') s)

/-- The lines without the blanks around them. -/
def trimmedLines (s : List Char) : List (List Char) :=
  (lines s).map trim

end SpecCoverage.Text
