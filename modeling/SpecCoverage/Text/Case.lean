-- SUMMARY: Full Unicode case mapping of characters and texts.
import SpecCoverage.Text.CaseTables
import SpecCoverage.Text.Character

/-!
# Case mapping

A character may map to several. In a text, a capital sigma at the end of a word becomes a final
sigma; mapping character by character never does that.
-/
namespace SpecCoverage.Text

/-- The code point a run maps `n` to, if it holds `n`. -/
def CaseRun.image? (r : CaseRun) (n : Nat) : Option Nat :=
  if r.first ≤ n && n ≤ r.last && (n - r.first) % r.step == 0 then
    some (Int.toNat (n + r.shift))
  else none

/-- Map one character by its expansion, else by its run, else to itself. -/
def mapCase (expansions : List (Nat × List Nat)) (runs : List CaseRun) (c : Char) : List Char :=
  match expansions.lookup c.toNat with
  | some ns => ns.map Char.ofNat
  | none => [((runs.findSome? (·.image? c.toNat)).map Char.ofNat).getD c]

/-- Upper case of one character. -/
def upperOf (c : Char) : List Char :=
  if c.toNat < 0x80 then [upperChar c] else mapCase upperExpansions upperRuns c

/-- Lower case of one character, wherever it stands. -/
def lowerOf (c : Char) : List Char :=
  if c.toNat < 0x80 then [lowerChar c] else mapCase lowerExpansions lowerRuns c

/-- Does a cased character come first, once the ignorable ones are looked through? -/
def meetsCased (s : List Char) : Bool :=
  match s.dropWhile isCaseIgnorable with
  | [] => false
  | c :: _ => isCased c

/-- Lower case of a character in a text, given what stands before it, nearest first, and after. -/
def lowerBetween (before after : List Char) (c : Char) : List Char :=
  if c == 'Σ' then [if meetsCased before && !meetsCased after then 'ς' else 'σ'] else lowerOf c

/-- Lower case of a text, given what stands before it and what is written so far, both last character
first. -/
def lowerAfter (before written : List Char) : List Char → List Char
  | [] => written.reverse
  | c :: s => lowerAfter (c :: before) ((lowerBetween before s c).reverse ++ written) s

/-- Lower case of a text. -/
def lower (s : List Char) : List Char :=
  lowerAfter [] [] s

/-- Upper case of a text. -/
def upper (s : List Char) : List Char :=
  s.flatMap upperOf

/-- A word with its first character in upper and the others in lower case. -/
def capitalize : List Char → List Char
  | [] => []
  | c :: w => upperOf c ++ w.flatMap lowerOf

end SpecCoverage.Text
