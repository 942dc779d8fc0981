-- SUMMARY: Cutting texts: leading and trailing pieces, first and last separators, replacement.
import SpecCoverage.Text.Blank

/-!
# Cutting texts

Each function either finds the piece it is asked for and returns what is left, or says `none`.
-/
namespace SpecCoverage.Text

/-- What follows `p`, if the text starts with it. -/
def dropLead? : List Char → List Char → Option (List Char)
  | [], s => some s
  | _ :: _, [] => none
  | a :: p, c :: s => if a = c then dropLead? p s else none

theorem dropLead?_eq_some_iff {p s r : List Char} : dropLead? p s = some r ↔ s = p ++ r := by
  induction p generalizing s with
  | nil => simp [dropLead?, eq_comm]
  | cons a p ih =>
    cases s with
    | nil => simp [dropLead?]
    | cons c s =>
      by_cases h : a = c
      · simp [dropLead?, h, ih]
      · simp [dropLead?, h, Ne.symm h]

/-- What precedes `p`, if the text ends with it. -/
def dropTail? (p s : List Char) : Option (List Char) :=
  (dropLead? p.reverse s.reverse).map List.reverse

theorem dropTail?_eq_some_iff {p s r : List Char} : dropTail? p s = some r ↔ s = r ++ p := by
  simp only [dropTail?, Option.map_eq_some_iff, dropLead?_eq_some_iff]
  constructor
  · rintro ⟨a, h, rfl⟩
    simpa using congrArg List.reverse h
  · rintro rfl
    exact ⟨r.reverse, by simp⟩

/-- Does the text start with `p`? -/
def startsWith (p s : List Char) : Bool :=
  (dropLead? p s).isSome

/-- Does the text end with `p`? -/
def endsWith (p s : List Char) : Bool :=
  (dropTail? p s).isSome

/-- Drop `k` characters, then `p` from the front as often as it stands there. -/
def dropLeadsFrom (p : List Char) : Nat → List Char → List Char
  | _, [] => []
  | k + 1, _ :: s => dropLeadsFrom p k s
  | 0, c :: s => if startsWith p (c :: s) then dropLeadsFrom p (p.length - 1) s else c :: s

/-- Drop `p` from the front as often as it stands there. An empty `p` drops nothing. -/
def dropLeads (p s : List Char) : List Char :=
  if p.isEmpty then s else dropLeadsFrom p 0 s

/-- The two sides of the first place where `p` stands, `seen` before the text, last character
first. -/
def cutAfter? (p seen : List Char) : List Char → Option (List Char × List Char)
  | [] => if p = [] then some (seen.reverse, []) else none
  | c :: s =>
    match dropLead? p (c :: s) with
    | some r => some (seen.reverse, r)
    | none => cutAfter? p (c :: seen) s

/-- The two sides of the first place where `p` stands. -/
def cutFirst? (p s : List Char) : Option (List Char × List Char) :=
  cutAfter? p [] s

/-- Does `p` stand anywhere in the text? -/
def contains (p s : List Char) : Bool :=
  (cutFirst? p s).isSome

/-- The part after the last character that satisfies `sep`, or the whole text. -/
def afterLast (sep : Char → Bool) (s : List Char) : List Char :=
  (s.reverse.takeWhile fun c => !sep c).reverse

/-- The part before the last character that satisfies `sep`, if there is one. -/
def beforeLast? (sep : Char → Bool) (s : List Char) : Option (List Char) :=
  match s.reverse.dropWhile fun c => !sep c with
  | [] => none
  | _ :: r => some r.reverse

/-- Drop `k` characters, then put `new` in the place of every occurrence of `old`. What is written
so far is kept last character first. -/
def replaceAfter (old new written : List Char) : Nat → List Char → List Char
  | _, [] => written.reverse
  | k + 1, _ :: s => replaceAfter old new written k s
  | 0, c :: s =>
    if startsWith old (c :: s) then
      replaceAfter old new (new.reverse ++ written) (old.length - 1) s
    else replaceAfter old new (c :: written) 0 s

/-- Put `new` in the place of every occurrence of `old`, from left to right. -/
def replace (old new s : List Char) : List Char :=
  if old.isEmpty then s else replaceAfter old new [] 0 s

end SpecCoverage.Text
