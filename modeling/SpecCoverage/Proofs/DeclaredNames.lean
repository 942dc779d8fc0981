-- SUMMARY: The names that the patterns of declarations find: pieces of the line, and identifiers unless they are quoted.
import Mathlib.Data.List.TakeWhile
import SpecCoverage.Declaration.Scan
import SpecCoverage.Proofs.Cutting

/-!
# Declared names

A pattern is tried at each place of a line, so what it finds behind one place it finds in the line
(`of_find?`). Each pattern but the one for test cases takes its name from `identifier?`, behind a
keyword or in front of a parenthesis.
-/
namespace SpecCoverage

open Text

namespace Pattern

/-- A letter or underscore of ASCII, then letters, digits and underscores. -/
def IsIdentifier (name : List Char) : Prop :=
  ∃ c s, name = c :: s ∧ isNameStart c = true ∧ ∀ x ∈ s, isNameChar x = true

-- ---------------------------------------------------------------------------
-- Searching a line
-- ---------------------------------------------------------------------------

variable {p : Probe} {P : List Char → Prop}

theorem of_firstFit (hp : ∀ before s name, p before s = some name → name <:+: s ∧ P name)
    {before : Option Char} {s name : List Char} (h : firstFit p before s = some name) :
    name <:+: s ∧ P name := by
  induction s generalizing before with
  | nil => exact hp before [] name h
  | cons c s ih =>
    rw [firstFit] at h
    split at h
    · rename_i found hfound
      obtain rfl := Option.some.inj h
      exact hp before (c :: s) found hfound
    · obtain ⟨hpiece, hname⟩ := ih h
      exact ⟨hpiece.trans (List.suffix_cons c s).isInfix, hname⟩

/-- What a pattern says of a name wherever it fits, it says of the name that it finds in a line. -/
theorem of_find? (hp : ∀ before s name, p before s = some name → name <:+: s ∧ P name)
    {line name : List Char} (h : find? p line = some name) : name <:+: line ∧ P name :=
  of_firstFit hp h

-- ---------------------------------------------------------------------------
-- Pieces of patterns
-- ---------------------------------------------------------------------------

variable {s name : List Char}

theorem isIdentifier_takeWhile {c : Char} (hc : isNameStart c = true) (s : List Char) :
    IsIdentifier (c :: s.takeWhile isNameChar) :=
  ⟨c, _, rfl, hc, fun _ hx => List.mem_takeWhile_imp hx⟩

theorem identifier?_eq_some {rest : List Char} (h : identifier? s = some (name, rest)) :
    IsIdentifier name ∧ s = name ++ rest := by
  cases s with
  | nil => cases h
  | cons c s =>
    rw [identifier?] at h
    split at h
    · rename_i hc
      obtain ⟨rfl, rfl⟩ := Prod.mk.inj (Option.some.inj h)
      exact ⟨isIdentifier_takeWhile hc s, by
        rw [List.cons_append, List.takeWhile_append_dropWhile]⟩
    · cases h

theorem blanks?_suffix {rest : List Char} (h : blanks? s = some rest) : rest <:+ s := by
  cases s with
  | nil => cases h
  | cons c s =>
    rw [blanks?] at h
    split at h
    · obtain rfl := Option.some.inj h
      exact (List.dropWhile_suffix _).trans (List.suffix_cons c s)
    · cases h

theorem dropLead?_suffix {lead rest : List Char} (h : dropLead? lead s = some rest) : rest <:+ s :=
  ⟨lead, (dropLead?_eq_some_iff.1 h).symm⟩

theorem keyword?_suffix {word : String} {before : Option Char} {rest : List Char}
    (h : keyword? word before s = some rest) : rest <:+ s := by
  rw [keyword?] at h
  split at h
  · cases h
  · obtain ⟨behind, hword, hblanks⟩ := Option.bind_eq_some_iff.1 h
    exact (blanks?_suffix hblanks).trans (dropLead?_suffix hword)

/-- An identifier behind a keyword, under a condition on it and on what follows. -/
theorem of_keyword? {word : String} {before : Option Char} {p : List Char → List Char → Bool}
    (h : ((keyword? word before s).bind fun behind => (identifier? behind).bind fun found =>
      if p found.1 found.2 then some found.1 else none) = some name) :
    name <:+: s ∧ IsIdentifier name ∧ ∃ rest, p name rest = true := by
  simp only [Option.bind_eq_some_iff] at h
  obtain ⟨behind, hword, ⟨found, rest⟩, hfound, h⟩ := h
  split at h
  · rename_i hp
    obtain rfl := Option.some.inj h
    obtain ⟨hid, rfl⟩ := identifier?_eq_some hfound
    exact ⟨(List.prefix_append found rest).isInfix.trans (keyword?_suffix hword).isInfix, hid,
      rest, hp⟩
  · cases h

-- ---------------------------------------------------------------------------
-- The patterns
-- ---------------------------------------------------------------------------

variable {before : Option Char}

/-- The quoted name of a test case. -/
theorem infix_of_testCase (h : testCase before s = some name) : name <:+: s := by
  simp only [testCase, Option.bind_eq_bind, Option.bind_eq_some_iff] at h
  obtain ⟨s₁, hword, s₂, hopen, s₃, hquote, hname⟩ := h
  split at hname
  · cases hname
  · obtain rfl := Option.some.inj hname
    have hs₃ : s₃ <:+ s := (dropLead?_suffix hquote).trans <| (List.dropWhile_suffix _).trans <|
      (dropLead?_suffix hopen).trans <| (List.dropWhile_suffix _).trans (dropLead?_suffix hword)
    exact (List.takeWhile_prefix _).isInfix.trans hs₃.isInfix

theorem of_function (h : function before s = some name) : name <:+: s ∧ IsIdentifier name := by
  obtain ⟨hpiece, hid, -⟩ := of_keyword? (p := fun _ rest => opens ['<', '('] rest) h
  exact ⟨hpiece, hid⟩

theorem of_testFunction (h : testFunction before s = some name) :
    name <:+: s ∧ IsIdentifier name ∧ "test_".toList <+: name := by
  obtain ⟨hpiece, hid, rest, htest⟩ :=
    of_keyword? (p := fun name rest => startsWith "test_".toList name && opens ['('] rest) h
  exact ⟨hpiece, hid, startsWith_iff.1 (Bool.and_eq_true_iff.1 htest).1⟩

theorem of_voidFunction (h : voidFunction before s = some name) :
    name <:+: s ∧ IsIdentifier name := by
  obtain ⟨hpiece, hid, -⟩ := of_keyword? (p := fun _ rest => opens ['('] rest) h
  exact ⟨hpiece, hid⟩

theorem of_signature? (h : signature? s = some name) : name <:+: s ∧ IsIdentifier name := by
  fun_induction signature? s with
  | case1 => cases h
  | case2 c s hc rest hopens =>
    obtain rfl := Option.some.inj h
    refine ⟨List.IsPrefix.isInfix ?_, isIdentifier_takeWhile hc s⟩
    exact List.prefix_cons_inj c |>.2 (List.takeWhile_prefix _)
  | case3 c s hc rest hopens ih =>
    obtain ⟨hpiece, hid⟩ := ih h
    exact ⟨hpiece.trans ((List.dropWhile_suffix _).trans (List.suffix_cons c s)).isInfix, hid⟩
  | case4 c s hc ih =>
    obtain ⟨hpiece, hid⟩ := ih h
    exact ⟨hpiece.trans (List.suffix_cons c s).isInfix, hid⟩

/-- A line opens with a test annotation when one of them leads it as a whole word. -/
def OpensWithAnnotation (line : List Char) : Prop :=
  ∃ mark ∈ annotationMarks, ∃ rest, line = mark ++ rest ∧ rest.head?.any isWordChar = false

theorem OpensWithAnnotation.ne_nil {line : List Char} (h : OpensWithAnnotation line) :
    line ≠ [] := by
  obtain ⟨mark, hmark, rest, rfl, -⟩ := h
  have hmarks : ∀ mark ∈ annotationMarks, mark ≠ [] := by decide
  exact List.append_ne_nil_of_left_ne_nil (hmarks mark hmark) rest

theorem isAnnotation_iff {line : List Char} :
    isAnnotation line = true ↔ OpensWithAnnotation line := by
  unfold isAnnotation OpensWithAnnotation
  simp only [List.any_eq_true]
  refine exists_congr fun mark => and_congr_right fun _ => ?_
  constructor
  · intro h
    split at h
    · cases h
    · rename_i rest hrest
      exact ⟨rest, dropLead?_eq_some_iff.1 hrest, by simpa using h⟩
  · rintro ⟨rest, rfl, hrest⟩
    rw [dropLead?_append]
    simpa using hrest

/-- A line holds a test attribute when one of them stands in it. -/
theorem isAttribute_iff {line : List Char} :
    isAttribute line = true ↔ ∃ mark ∈ attributeMarks, mark <:+: line := by
  simp only [isAttribute, List.any_eq_true]
  refine exists_congr fun mark => and_congr_right fun _ => ?_
  rw [contains, Option.isSome_iff_ne_none, Ne, cutFirst?_eq_none_iff, not_not]

end Pattern

/-- Methods are looked for on lines that are neither empty nor led by `@` or `[`. -/
theorem Declaration.method?_eq_some_iff {line name : List Char} :
    method? line = some name ↔ line ≠ [] ∧ ¬ ['@'] <+: line ∧ ¬ ['['] <+: line ∧
      Pattern.signature? line = some name := by
  rw [method?]
  split
  · rename_i h
    simp only [Bool.or_eq_true, List.isEmpty_iff, startsWith_iff] at h
    constructor
    · intro h; cases h
    · grind
  · rename_i h
    simp only [Bool.or_eq_true, List.isEmpty_iff, startsWith_iff] at h
    grind

end SpecCoverage
