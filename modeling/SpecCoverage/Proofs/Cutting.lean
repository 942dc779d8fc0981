-- SUMMARY: Cutting at the first place where a piece stands, and when a cut is not possible.
import Mathlib.Data.List.Infix
import SpecCoverage.Text.Cut

/-!
# Cutting at the first place

A text is cut where a piece stands for the first time. Put behind a text, the piece is found at its
place unless it starts within the text before (`StartsWithin`): an earlier occurrence may use
characters of the later one, but not all of them.
-/
namespace SpecCoverage.Text

theorem dropLead?_append (p s : List Char) : dropLead? p (p ++ s) = some s :=
  dropLead?_eq_some_iff.2 rfl

theorem dropLead?_eq_none_iff {p s : List Char} : dropLead? p s = none ↔ ¬ p <+: s := by
  constructor
  · rintro h ⟨r, rfl⟩
    rw [dropLead?_append] at h
    cases h
  · intro h
    cases hr : dropLead? p s with
    | none => rfl
    | some r => exact absurd ⟨r, (dropLead?_eq_some_iff.1 hr).symm⟩ h

theorem startsWith_iff {p s : List Char} : startsWith p s = true ↔ p <+: s := by
  rw [startsWith, Option.isSome_iff_ne_none, Ne, dropLead?_eq_none_iff, not_not]

theorem dropTail?_append (p s : List Char) : dropTail? p (s ++ p) = some s :=
  dropTail?_eq_some_iff.2 rfl

theorem dropTail?_eq_none_iff {p s : List Char} : dropTail? p s = none ↔ ¬ p <:+ s := by
  constructor
  · rintro h ⟨r, rfl⟩
    rw [dropTail?_append] at h
    cases h
  · intro h
    cases hr : dropTail? p s with
    | none => rfl
    | some r => exact absurd ⟨r, (dropTail?_eq_some_iff.1 hr).symm⟩ h

/-! ## The first place -/

theorem cutAfter?_eq_none_iff {p seen s : List Char} :
    cutAfter? p seen s = none ↔ ¬ p <:+: s := by
  induction s generalizing seen with
  | nil =>
    unfold cutAfter?
    split <;> simp_all
  | cons c s ih =>
    rw [List.infix_cons_iff, not_or, ← dropLead?_eq_none_iff, cutAfter?]
    cases hlead : dropLead? p (c :: s) with
    | none => exact ih.trans (by simp)
    | some r => simp

theorem cutFirst?_eq_none_iff {p s : List Char} : cutFirst? p s = none ↔ ¬ p <:+: s :=
  cutAfter?_eq_none_iff

/-- Would `p`, put behind `s`, be found before its place? -/
def StartsWithin (p s : List Char) : Prop :=
  p <:+: s ++ p.dropLast

instance (p s : List Char) : Decidable (StartsWithin p s) :=
  inferInstanceAs (Decidable (_ <:+: _))

theorem StartsWithin.cons {p s : List Char} (c : Char) (h : StartsWithin p s) :
    StartsWithin p (c :: s) :=
  List.IsInfix.trans h (List.suffix_cons c _).isInfix

/-- What stands in front of `c :: s` and `p` stands in front of `c :: s` without the end of `p`. -/
theorem startsWithin_of_leads {p b s : List Char} {c : Char} (h : p <+: c :: s ++ p ++ b) :
    StartsWithin p (c :: s) := by
  have hfront : c :: s ++ p.dropLast <+: c :: s ++ p ++ b := by
    rw [List.append_assoc]
    refine (List.prefix_append_right_inj _).2 ?_
    exact (List.dropLast_prefix p).trans (List.prefix_append p b)
  refine (List.prefix_of_prefix_length_le h hfront ?_).isInfix
  simp only [List.length_append, List.length_cons, List.length_dropLast]
  omega

theorem cutAfter?_append {p s : List Char} (seen b : List Char) (hp : p ≠ [])
    (h : ¬ StartsWithin p s) :
    cutAfter? p seen (s ++ p ++ b) = some (seen.reverse ++ s, b) := by
  induction s generalizing seen with
  | nil =>
    obtain ⟨c, p, rfl⟩ := List.exists_cons_of_ne_nil hp
    rw [List.nil_append, List.cons_append]
    rw [cutAfter?, ← List.cons_append, dropLead?_append, List.append_nil]
  | cons c s ih =>
    -- Found here, the piece would reach back into the text in front of its place.
    have hlead : dropLead? p (c :: s ++ p ++ b) = none :=
      dropLead?_eq_none_iff.2 fun hpre => h (startsWithin_of_leads hpre)
    rw [List.cons_append, List.cons_append] at hlead ⊢
    rw [cutAfter?, hlead]
    dsimp only
    rw [ih (c :: seen) fun hs => h (hs.cons c)]
    simp

/-- A piece that does not start within the text before it is found at its place. -/
theorem cutFirst?_append {p s : List Char} (b : List Char) (hp : p ≠ [])
    (h : ¬ StartsWithin p s) : cutFirst? p (s ++ p ++ b) = some (s, b) :=
  cutAfter?_append [] b hp h

/-! ## The last place -/

/-- What stops at a character stops there whatever follows. -/
theorem takeWhile_append_stop {p : Char → Bool} {c : Char} (hc : p c = false) (s t : List Char) :
    (s ++ c :: t).takeWhile p = s.takeWhile p := by
  induction s with
  | nil => simp [hc]
  | cons d s ih => cases hd : p d <;> simp [hd, ih]

theorem dropWhile_append_stop {p : Char → Bool} {c : Char} (hc : p c = false) (s t : List Char) :
    (s ++ c :: t).dropWhile p = s.dropWhile p ++ c :: t := by
  induction s with
  | nil => simp [hc]
  | cons d s ih => cases hd : p d <;> simp [hd, ih]

theorem afterLast_append_sep {sep : Char → Bool} {c : Char} (a b : List Char) (hc : sep c = true) :
    afterLast sep (a ++ c :: b) = afterLast sep b := by
  rw [afterLast, List.reverse_append, List.reverse_cons, List.append_assoc, List.singleton_append,
    takeWhile_append_stop (by simp [hc])]
  rfl

/-- What stands behind the last separator ends the text. -/
theorem afterLast_suffix (sep : Char → Bool) (s : List Char) : afterLast sep s <:+ s := by
  have hbegins := List.takeWhile_prefix (fun c => !sep c) (l := s.reverse)
  rwa [← List.reverse_suffix, List.reverse_reverse] at hbegins

end SpecCoverage.Text
