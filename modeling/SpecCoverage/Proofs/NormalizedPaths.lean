-- SUMMARY: Paths up to the kind of slashes and `./` in front: which are the same, their file stems, and the search for a verdict by either.
import Mathlib.Data.List.TakeWhile
import SpecCoverage.Proofs.Cutting
import SpecCoverage.Proofs.Join

/-!
# Normalized paths

Paths are compared as they are left when every backslash is a slash and no `./` stands in front
(`SamePath`). The stem of a file name (`HasStem`) does not depend on either, so it may be read off a
path before or after. With both, what the index of verdicts answers is said without it: the first
verdict of the report whose path is the same, else the first whose file has the same stem.
-/
namespace SpecCoverage

open Text

namespace Text

/-! ## Dots in front -/

theorem dropLeads_dot (s : List Char) :
    dropLeads "./".toList ('.' :: '/' :: s) = dropLeads "./".toList s := by
  cases s <;> rfl

theorem dropLeads_eq_self {p s : List Char} (h : startsWith p s = false) : dropLeads p s = s := by
  unfold dropLeads
  split
  · rfl
  · cases s with
    | nil => rfl
    | cons c s => simp [dropLeadsFrom, h]

theorem dropLeads_dot_cases (s : List Char) :
    (∃ r, s = '.' :: '/' :: r) ∨
      ¬ "./".toList <+: s ∧ dropLeads "./".toList s = s := by
  cases h : startsWith "./".toList s with
  | true =>
    obtain ⟨r, hr⟩ := startsWith_iff.1 h
    exact .inl ⟨r, hr.symm⟩
  | false =>
    refine .inr ⟨?_, dropLeads_eq_self h⟩
    rw [← startsWith_iff, h]
    exact Bool.false_ne_true

/-- `r` is what is left of `s` without the groups `./` in front. -/
def DropsDots (s r : List Char) : Prop :=
  ¬ "./".toList <+: r ∧ ∃ n, s = (List.replicate n "./".toList).flatten ++ r

theorem dropsDots_dropLeads (s : List Char) : DropsDots s (dropLeads "./".toList s) := by
  rcases dropLeads_dot_cases s with ⟨r, rfl⟩ | ⟨hfront, hself⟩
  · obtain ⟨hrest, n, hn⟩ := dropsDots_dropLeads r
    rw [dropLeads_dot]
    refine ⟨hrest, n + 1, ?_⟩
    rw [List.replicate_succ, List.flatten_cons, List.append_assoc, ← hn]
    rfl
  · rw [hself]
    exact ⟨hfront, 0, rfl⟩
termination_by s.length

theorem dropsDots_iff {s r : List Char} : DropsDots s r ↔ dropLeads "./".toList s = r := by
  constructor
  · rintro ⟨hrest, n, rfl⟩
    induction n with
    | zero => exact dropLeads_eq_self (by rwa [Bool.eq_false_iff, Ne, startsWith_iff])
    | succ n ih =>
      rw [List.replicate_succ, List.flatten_cons, List.append_assoc]
      exact (dropLeads_dot _).trans ih
  · rintro rfl
    exact dropsDots_dropLeads s

/-! ## The last separator -/

/-- Without `./` in front a path has the same file name and is no longer. -/
theorem afterLast_dropLeads {sep : Char → Bool} (hsep : sep '/' = true) (s : List Char) :
    afterLast sep (dropLeads "./".toList s) = afterLast sep s ∧
      (dropLeads "./".toList s).length ≤ s.length := by
  rcases dropLeads_dot_cases s with ⟨r, rfl⟩ | ⟨-, h⟩
  · obtain ⟨hname, hlength⟩ := afterLast_dropLeads hsep r
    rw [dropLeads_dot, hname]
    refine ⟨(afterLast_append_sep ['.'] r hsep).symm, ?_⟩
    simp only [List.length_cons]
    omega
  · rw [h]
    exact ⟨rfl, le_rfl⟩
termination_by s.length

theorem afterLast_of_forall_not {sep : Char → Bool} {s : List Char} (h : ∀ c ∈ s, sep c = false) :
    afterLast sep s = s := by
  rw [afterLast, List.takeWhile_eq_self_iff.2, List.reverse_reverse]
  intro c hc
  rw [h c (List.mem_reverse.1 hc)]
  rfl

/-- What stands behind the last separator: no separator, and one in front of it if anything is. -/
theorem afterLast_eq_iff {sep : Char → Bool} {s name : List Char} :
    afterLast sep s = name ↔
      ∃ front, s = front ++ name ∧ (∀ c ∈ front.getLast?, sep c = true) ∧
        ∀ c ∈ name, sep c = false := by
  constructor
  · rintro rfl
    refine ⟨(s.reverse.dropWhile fun c => !sep c).reverse, ?_, ?_, ?_⟩
    · rw [afterLast, ← List.reverse_append, List.takeWhile_append_dropWhile, List.reverse_reverse]
    · intro c hc
      rw [List.getLast?_reverse] at hc
      have hhead := List.head?_dropWhile_not (fun c => !sep c) s.reverse
      rw [Option.mem_def.1 hc] at hhead
      simpa using hhead
    · intro c hc
      simpa using List.mem_takeWhile_imp (List.mem_reverse.1 hc)
  · rintro ⟨front, rfl, hfront, hname⟩
    rcases List.eq_nil_or_concat' front with rfl | ⟨front, c, rfl⟩
    · exact afterLast_of_forall_not hname
    · rw [List.append_assoc, List.singleton_append, afterLast_append_sep _ _ (hfront c (by simp)),
        afterLast_of_forall_not hname]

theorem beforeLast?_of_forall_not {sep : Char → Bool} {s : List Char}
    (h : ∀ c ∈ s, sep c = false) : beforeLast? sep s = none := by
  have hnone : s.reverse.dropWhile (fun c => !sep c) = [] := by
    rw [List.dropWhile_eq_nil_iff]
    intro c hc
    rw [h c (List.mem_reverse.1 hc)]
    rfl
  rw [beforeLast?, hnone]

theorem beforeLast?_append {sep : Char → Bool} {c : Char} {b : List Char} (a : List Char)
    (hc : sep c = true) (hb : ∀ x ∈ b, sep x = false) : beforeLast? sep (a ++ c :: b) = some a := by
  have hrest : (a ++ c :: b).reverse.dropWhile (fun c => !sep c) = c :: a.reverse := by
    rw [List.reverse_append, List.reverse_cons, List.append_assoc, List.dropWhile_append_of_pos]
    · exact List.dropWhile_cons_of_neg (by simp [hc])
    · intro x hx
      rw [hb x (List.mem_reverse.1 hx)]
      rfl
  rw [beforeLast?, hrest]
  exact congrArg some a.reverse_reverse

end Text

/-! ## File stems -/

/-- The stem of a file name, without its last dot and what follows. -/
theorem stemOfName_eq_iff {name stem : List Char} :
    stemOfName name = stem ↔ name = stem ∧ '.' ∉ stem ∨
      ∃ extension, name = stem ++ '.' :: extension ∧ '.' ∉ extension := by
  have hfree {s : List Char} (hs : '.' ∉ s) : ∀ c ∈ s, (c == '.') = false := by
    intro c hc
    rw [beq_eq_false_iff_ne]
    rintro rfl
    exact hs hc
  have hplain {s : List Char} (hs : '.' ∉ s) : stemOfName s = s := by
    rw [stemOfName, beforeLast?_of_forall_not (hfree hs), Option.getD_none]
  have hdotted (s : List Char) {b : List Char} (hb : '.' ∉ b) : stemOfName (s ++ '.' :: b) = s := by
    rw [stemOfName, beforeLast?_append s rfl (hfree hb), Option.getD_some]
  constructor
  · rintro rfl
    by_cases hdot : '.' ∈ name
    · obtain ⟨front, back, hname, hback⟩ : ∃ front back, name = front ++ '.' :: back ∧ '.' ∉ back := by
        obtain ⟨a, b, hname, ha⟩ := List.eq_append_cons_of_mem (List.mem_reverse.2 hdot)
        refine ⟨b.reverse, a.reverse, ?_, by simpa using ha⟩
        simpa using congrArg List.reverse hname
      rw [hname, hdotted _ hback]
      exact .inr ⟨back, rfl, hback⟩
    · rw [hplain hdot]
      exact .inl ⟨rfl, hdot⟩
  · rintro (⟨rfl, hdot⟩ | ⟨extension, rfl, hdot⟩)
    · exact hplain hdot
    · exact hdotted stem hdot

/-- The file name stands behind the last slash or backslash, and its stem before its last dot. -/
def HasStem (path stem : String) : Prop :=
  ∃ directory name : List Char, path.toList = directory ++ name ∧
    (∀ c ∈ directory.getLast?, isPathSeparator c = true) ∧
    (∀ c ∈ name, isPathSeparator c = false) ∧
    (name = stem.toList ∧ '.' ∉ stem.toList ∨
      ∃ extension, name = stem.toList ++ '.' :: extension ∧ '.' ∉ extension)

theorem hasStem_iff {path stem : String} : HasStem path stem ↔ fileStem path = stem := by
  have hstem : fileStem path = stem ↔
      stemOfName (afterLast isPathSeparator path.toList) = stem.toList := by
    rw [fileStem, ← String.toList_inj, String.toList_ofList]
  rw [hstem, stemOfName_eq_iff]
  constructor
  · rintro ⟨directory, name, hpath, hdirectory, hname, hcut⟩
    rwa [afterLast_eq_iff.2 ⟨directory, hpath, hdirectory, hname⟩]
  · intro hcut
    obtain ⟨directory, hpath, hdirectory, hname⟩ :=
      afterLast_eq_iff.1 (rfl : afterLast isPathSeparator path.toList = _)
    exact ⟨directory, _, hpath, hdirectory, hname, hcut⟩

/-- Slashes for backslashes leave the file name as it is. -/
theorem afterLast_slashes {sep : Char → Bool} (hsep : sep '/' = true)
    (hothers : ∀ c, c ≠ '\\' → isPathSeparator c = sep c) (s : List Char) :
    afterLast sep (slashes s) = afterLast isPathSeparator s := by
  unfold afterLast slashes
  rw [← List.map_reverse]
  congr 1
  induction s.reverse with
  | nil => rfl
  | cons c cs ih =>
    rw [List.map_cons]
    by_cases hback : c = '\\'
    · have hstop : isPathSeparator '\\' = true := by decide
      rw [if_pos hback, hback, List.takeWhile_cons_of_neg (by simp [hsep]),
        List.takeWhile_cons_of_neg (by simp [hstop])]
    · rw [if_neg hback, List.takeWhile_cons, List.takeWhile_cons, ih, hothers c hback]

/-- The file name is the same in a normalized path. -/
theorem normalizedStem_normalizePath (path : String) :
    normalizedStem (normalizePath path) = fileStem path := by
  have hname : afterLast (· == '/') (dropLeads "./".toList (slashes path.toList)) =
      afterLast isPathSeparator path.toList := by
    rw [(afterLast_dropLeads rfl _).1]
    refine afterLast_slashes ?_ ?_ _
    · rfl
    · intro c hc
      simp [isPathSeparator, hc]
  rw [normalizedStem, normalizePath, String.toList_ofList, hname]
  rfl

/-! ## Searching a report -/

/-- Do the paths agree up to the kind of slashes and `./` in front? -/
def SamePath (p q : String) : Prop :=
  ∃ rest, DropsDots (slashes p.toList) rest ∧ DropsDots (slashes q.toList) rest

theorem samePath_iff {p q : String} : SamePath p q ↔ normalizePath p = normalizePath q := by
  rw [normalizePath, normalizePath, String.ofList_inj]
  constructor
  · rintro ⟨rest, hp, hq⟩
    rw [dropsDots_iff.1 hp, dropsDots_iff.1 hq]
  · intro h
    exact ⟨_, dropsDots_dropLeads _, h ▸ dropsDots_dropLeads _⟩

instance (p q : String) : Decidable (SamePath p q) :=
  decidable_of_iff _ samePath_iff.symm

/-- The first verdict of a report at the path of a feature, else the first for a file of its stem. -/
def FeatureVerdict.sought? (verdicts : List FeatureVerdict) (f : Feature) : Option FeatureVerdict :=
  (verdicts.find? fun v => SamePath v.path f.path).or
    (verdicts.find? fun v => fileStem v.path = f.stem)

/-- The index of verdicts answers as a search through the report does, and the stem read off a
normalized path is the stem of the path. -/
theorem VerdictIndex.lookup?_eq_sought? (verdicts : List FeatureVerdict) (f : Feature) :
    (ofVerdicts verdicts).lookup? f = FeatureVerdict.sought? verdicts f ∧
      ∀ path, normalizedStem (normalizePath path) = fileStem path ∧
        ∀ stem, fileStem path = stem ↔ HasStem path stem := by
  constructor
  · have hpath : ∀ v : FeatureVerdict, v.IsAt f ↔ SamePath v.path f.path :=
      fun v => samePath_iff.symm
    have hstem : ∀ v : FeatureVerdict, v.SharesStemWith f ↔ fileStem v.path = f.stem := by
      intro v
      rw [FeatureVerdict.SharesStemWith, normalizedStem_normalizePath]
    rw [lookup?_ofVerdicts, FeatureVerdict.joined?, FeatureVerdict.sought?]
    simp only [hpath, hstem]
  · intro path
    exact ⟨normalizedStem_normalizePath path, fun _ => hasStem_iff.symm⟩

end SpecCoverage
