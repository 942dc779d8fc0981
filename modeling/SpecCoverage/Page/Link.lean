-- SUMMARY: Links from a report page into source files, and the anchors of features.
import SpecCoverage.Text.Ascii
import SpecCoverage.Text.Cut

/-!
# Links

A link to a source file is the path itself or the path below a configured base, with the line
behind it. The anchor of a feature names its block in the breakdown.
-/
namespace SpecCoverage.Link

open Text

/-- The base of links without slashes at its end, unless nothing is left of it. -/
def trimmedBase? (base? : Option String) : Option (List Char) :=
  match base? with
  | none => none
  | some base =>
    match base.toList.reverse.dropWhile (· == '/') with
    | [] => none
    | s => some s.reverse

/-- The link to a file, at a line if one is given. -/
def toSource (base? : Option String) (path : String) (line? : Option Nat) : String :=
  let path := dropLeads "./".toList path.toList
  let target :=
    match trimmedBase? base? with
    | some base => base ++ '/' :: path.dropWhile (· == '/')
    | none => path
  String.ofList target ++ (match line? with
    | some line => "#L" ++ toString line
    | none => "")

/-- The anchor of a feature: letters and digits of its path in lower case, every other character a
hyphen. -/
def featureAnchor (path : String) : String :=
  "feature-" ++
    String.ofList (path.toList.map fun c => if isAsciiAlphanumeric c then lowerChar c else '-')

/-- The part of a record's identifier after its last number sign, or all of it. -/
def shortId (id : String) : String :=
  String.ofList (afterLast (· == '#') id.toList)

end SpecCoverage.Link
