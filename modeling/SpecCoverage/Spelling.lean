-- SUMMARY: The spellings under which a test method may carry a scenario's name.
import SpecCoverage.Text.Blank
import SpecCoverage.Text.Case

/-!
# Spellings of scenario names

A test method belongs to a scenario when its name, reduced to ASCII letters and digits in lower
case, is the reduced form of one of four spellings: the name itself, its words joined by
underscores, its words capitalized and joined, or `test_` before the underscored form.
-/
namespace SpecCoverage.Spelling

open Text

/-- ASCII letters and digits alone, in lower case. -/
def reduce (name : List Char) : List Char :=
  (name.filter isAsciiAlphanumeric).map lowerChar

/-- A name reduced, as text. -/
def reduced (name : String) : String :=
  String.ofList (reduce name.toList)

/-- The name without punctuation: letters, numbers, underscores and blanks. -/
def plain (name : List Char) : List Char :=
  name.filter fun c => isAlphanumeric c || c == '_' || isBlank c

/-- The words in lower case, joined by underscores. -/
def snake (name : List Char) : List Char :=
  List.intercalate ['_'] (words (lower (plain name)))

/-- The words capitalized and joined. -/
def pascal (name : List Char) : List Char :=
  (words (plain name)).flatMap capitalize

/-- The underscored form after `test_`. -/
def testMethod (name : List Char) : List Char :=
  "test_".toList ++ snake name

/-- All spellings of a scenario name. -/
def candidates (name : List Char) : List (List Char) :=
  [name, snake name, pascal name, testMethod name]

/-- The reduced forms under which a scenario's method is known. -/
def reducedForms (scenario : String) : List (List Char) :=
  (candidates scenario.toList).map reduce

/-- Is a method name, reduced, among such forms? A name with no letter or digit is not. -/
def isAmong (forms : List (List Char)) (method : String) : Bool :=
  let m := reduce method.toList
  !m.isEmpty && forms.contains m

/-- Does a method name stand for a scenario? -/
def fits (method scenario : String) : Bool :=
  isAmong (reducedForms scenario) method

end SpecCoverage.Spelling
