-- SUMMARY: Titles derived from file names.
import SpecCoverage.Text.Ascii
import SpecCoverage.Text.Blank

/-!
# Titles from file names

A feature without a title of its own is called by the words of its file name, each with a capital
letter and the usual abbreviations written out.
-/
namespace SpecCoverage.Title

open Text

/-- What abbreviations stand for in titles. -/
def expansions : List (String × String) :=
  [("auth", "Authentication"), ("api", "API"), ("sql", "SQL"), ("http", "HTTP"), ("jwt", "JWT"),
    ("ssl", "SSL"), ("tls", "TLS"), ("db", "Database")]

def isWordSeparator (c : Char) : Bool :=
  c == '_' || c == '-' || c == ' '

def ofWord (word : List Char) : String :=
  let low := lowerAscii word
  (expansions.lookup (String.ofList low)).getD (String.ofList (capitalizeAscii low))

/-- The title for a file stem. -/
def ofStem (stem : String) : String :=
  " ".intercalate
    (((splitAtChars isWordSeparator stem.toList).filter (!·.isEmpty)).map ofWord)

end SpecCoverage.Title
