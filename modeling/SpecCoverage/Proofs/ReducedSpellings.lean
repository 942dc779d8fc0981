-- SUMMARY: All spellings of a scenario name in ASCII have one reduced form, but for the one that starts with test.
import Mathlib.Data.List.Basic
import SpecCoverage.Spelling

/-!
# Reduced spellings

Reducing a text looks at each character by itself, so it passes through cutting, joining and changes
of case: punctuation, blanks and underscores leave nothing behind, and the case of a letter does not
matter. The spellings of a name in ASCII therefore reduce to the name reduced. A letter beyond ASCII
may have an ASCII letter for its other case, as the Kelvin sign has, and then a spelling keeps more of
the name than the name itself.
-/
namespace SpecCoverage

-- ---------------------------------------------------------------------------
-- Words and case
-- ---------------------------------------------------------------------------

namespace Text

/-- Are all characters ASCII characters? -/
def AllAscii (s : List Char) : Prop :=
  ∀ c ∈ s, c.toNat < 128

instance (s : List Char) : Decidable (AllAscii s) :=
  List.decidableBAll (fun c : Char => c.toNat < 128) s

/-- The pieces between separators are what the text has besides them. -/
theorem flatten_splitAtChars (p : Char → Bool) (s : List Char) :
    (splitAtChars p s).flatten = s.filter (!p ·) := by
  induction s with
  | nil => rfl
  | cons c s ih =>
    rw [splitAtChars_cons, List.filter_cons, ← ih]
    cases p c with
    | true => rfl
    | false => cases splitAtChars p s <;> rfl

/-- The words of a text are what it has besides blanks. -/
theorem flatten_words (s : List Char) : (words s).flatten = s.filter (!isBlank ·) := by
  rw [words, List.flatten_filter_not_isEmpty, flatten_splitAtChars]

theorem mem_of_mem_words {s w : List Char} {c : Char} (hw : w ∈ words s) (hc : c ∈ w) : c ∈ s := by
  have hmem : c ∈ (words s).flatten := List.mem_flatten_of_mem hw hc
  rw [flatten_words] at hmem
  exact (List.mem_filter.1 hmem).1

/-- Without a capital sigma a text is put in lower case character by character. -/
theorem lower_eq_flatMap {s : List Char} (h : 'Σ' ∉ s) : lower s = s.flatMap lowerOf := by
  have hafter (before written : List Char) :
      lowerAfter before written s = written.reverse ++ s.flatMap lowerOf := by
    induction s generalizing before written with
    | nil => simp [lowerAfter]
    | cons c s ih =>
      have hc : (c == 'Σ') = false := beq_eq_false_iff_ne.2 fun he => h (he ▸ List.mem_cons_self)
      rw [lowerAfter, ih fun hs => h (List.mem_cons_of_mem c hs), lowerBetween, hc]
      simp
  exact hafter [] []

theorem not_isBlank_of_isAsciiAlphanumeric {c : Char} (h : isAsciiAlphanumeric c = true) :
    isBlank c = false :=
  forall_ascii (p := fun c => isAsciiAlphanumeric c = true → isBlank c = false) (by decide +kernel)
    (toNat_lt_of_isAsciiAlphanumeric h) h

theorem isAlphanumeric_of_isAsciiAlphanumeric {c : Char} (h : isAsciiAlphanumeric c = true) :
    isAlphanumeric c = true := by
  rw [isAlphanumeric, if_pos (toNat_lt_of_isAsciiAlphanumeric h), h]

end Text

-- ---------------------------------------------------------------------------
-- Reducing
-- ---------------------------------------------------------------------------

namespace Spelling

open Text

variable {s : List Char}

theorem reduce_append (s t : List Char) : reduce (s ++ t) = reduce s ++ reduce t := by
  simp [reduce]

theorem reduce_flatMap {α : Type} (f : α → List Char) (xs : List α) :
    reduce (xs.flatMap f) = xs.flatMap fun x => reduce (f x) := by
  induction xs with
  | nil => rfl
  | cons x xs ih => rw [List.flatMap_cons, List.flatMap_cons, reduce_append, ih]

/-- Characters other than letters and digits may be left out first. -/
theorem reduce_filter {p : Char → Bool} (hp : ∀ c, isAsciiAlphanumeric c = true → p c = true)
    (s : List Char) : reduce (s.filter p) = reduce s := by
  rw [reduce, reduce, List.filter_filter]
  congr 1
  refine List.filter_congr fun c _ => ?_
  cases hc : isAsciiAlphanumeric c with
  | false => rfl
  | true => rw [hp c hc, Bool.and_self]

theorem reduce_plain (name : List Char) : reduce (plain name) = reduce name := by
  refine reduce_filter (fun c hc => ?_) name
  rw [isAlphanumeric_of_isAsciiAlphanumeric hc, Bool.true_or, Bool.true_or]

/-- A text reduces to its words reduced. -/
theorem flatMap_reduce_words (s : List Char) : (words s).flatMap reduce = reduce s := by
  have hflatten : reduce (words s).flatten = (words s).flatMap reduce := by
    rw [← List.flatMap_id', reduce_flatMap]
  rw [← hflatten, flatten_words, reduce_filter fun c hc => by
    rw [not_isBlank_of_isAsciiAlphanumeric hc, Bool.not_false]]

/-- The underscores between words leave nothing behind. -/
theorem reduce_underscored (ws : List (List Char)) :
    reduce (List.intercalate ['_'] ws) = ws.flatMap reduce := by
  induction ws with
  | nil => rfl
  | cons w ws ih =>
    cases ws with
    | nil => simp
    | cons v vs =>
      rw [List.intercalate_cons_cons, reduce_append, reduce_append, ih]
      have hunderscore : reduce ['_'] = [] := rfl
      rw [hunderscore, List.append_nil, ← List.flatMap_cons]

/-! ## Case -/

theorem reduce_lowerOf {c : Char} (hc : c.toNat < 128) : reduce (lowerOf c) = reduce [c] :=
  forall_ascii (p := fun c => reduce (lowerOf c) = reduce [c]) (by decide +kernel) hc

theorem reduce_upperOf {c : Char} (hc : c.toNat < 128) : reduce (upperOf c) = reduce [c] :=
  forall_ascii (p := fun c => reduce (upperOf c) = reduce [c]) (by decide +kernel) hc

theorem reduce_flatMap_lowerOf (h : AllAscii s) : reduce (s.flatMap lowerOf) = reduce s := by
  induction s with
  | nil => rfl
  | cons c s ih =>
    obtain ⟨hc, hs⟩ := List.forall_mem_cons.1 h
    rw [List.flatMap_cons, reduce_append, reduce_lowerOf hc, ih hs, ← reduce_append]
    rfl

theorem reduce_lower (h : AllAscii s) : reduce (lower s) = reduce s := by
  have hsigma : 'Σ' ∉ s := fun hmem => absurd (h 'Σ' hmem) (by decide)
  rw [lower_eq_flatMap hsigma, reduce_flatMap_lowerOf h]

theorem reduce_capitalize (h : AllAscii s) : reduce (capitalize s) = reduce s := by
  cases s with
  | nil => rfl
  | cons c w =>
    obtain ⟨hc, hw⟩ := List.forall_mem_cons.1 h
    rw [capitalize, reduce_append, reduce_upperOf hc, reduce_flatMap_lowerOf hw, ← reduce_append]
    rfl

/-! ## Spellings -/

variable {name : List Char}

theorem allAscii_plain (h : AllAscii name) : AllAscii (plain name) :=
  fun c hc => h c (List.mem_filter.1 hc).1

theorem reduce_snake (h : AllAscii name) : reduce (snake name) = reduce name := by
  rw [snake, reduce_underscored, flatMap_reduce_words, reduce_lower (allAscii_plain h),
    reduce_plain]

theorem reduce_pascal (h : AllAscii name) : reduce (pascal name) = reduce name := by
  have hwords : ∀ w ∈ words (plain name), reduce (capitalize w) = reduce w := by
    intro w hw
    exact reduce_capitalize fun c hc => allAscii_plain h c (mem_of_mem_words hw hc)
  rw [pascal, reduce_flatMap, List.flatMap_congr hwords, flatMap_reduce_words, reduce_plain]

theorem reduce_testMethod (h : AllAscii name) :
    reduce (testMethod name) = "test".toList ++ reduce name := by
  rw [testMethod, reduce_append, reduce_snake h]
  rfl

/-- Of the four forms of a name in ASCII two are left. -/
theorem mem_reducedForms_iff {scenario : String} (h : AllAscii scenario.toList) {m : List Char} :
    m ∈ reducedForms scenario ↔
      m = reduce scenario.toList ∨ m = "test".toList ++ reduce scenario.toList := by
  rw [reducedForms, candidates]
  simp [reduce_snake h, reduce_pascal h, reduce_testMethod h]

theorem fits_eq_true_iff {method scenario : String} :
    fits method scenario = true ↔
      reduce method.toList ≠ [] ∧ reduce method.toList ∈ reducedForms scenario := by
  simp [fits, isAmong]

/-- A method stands for a scenario whose name is in ASCII just when its reduced name is not empty and
is the reduced name of the scenario, on its own or after `test`. All spellings of the name but the
last one reduce alike. -/
theorem fits_ascii_iff (method scenario : String) (h : AllAscii scenario.toList) :
    (fits method scenario = true ↔
      reduced method ≠ "" ∧
        (reduced method = reduced scenario ∨ reduced method = "test" ++ reduced scenario)) ∧
      (∀ spelling ∈ [scenario.toList, snake scenario.toList, pascal scenario.toList],
        reduced (String.ofList spelling) = reduced scenario) ∧
      reduced (String.ofList (testMethod scenario.toList)) = "test" ++ reduced scenario := by
  have htest : "test" ++ reduced scenario =
      String.ofList ("test".toList ++ reduce scenario.toList) := by
    rw [reduced, String.ofList_append, String.ofList_toList]
  refine ⟨?_, ?_, ?_⟩
  · rw [fits_eq_true_iff, mem_reducedForms_iff h, htest]
    simp only [reduced, String.ofList_inj, ne_eq, String.ofList_eq_empty_iff]
  · intro spelling hspelling
    simp only [reduced, String.toList_ofList]
    simp only [List.mem_cons, List.not_mem_nil, or_false] at hspelling
    obtain rfl | rfl | rfl := hspelling
    · rfl
    · rw [reduce_snake h]
    · rw [reduce_pascal h]
  · rw [htest, reduced, String.toList_ofList, reduce_testMethod h]

theorem fits_ascii_iff_autoCompress :
    AllAscii "PUT with\tAUTO_COMPRESS=TRUE\x00".toList ∧
      fits "test_put_with_auto_compress_true" "PUT with\tAUTO_COMPRESS=TRUE\x00" = true := by
  have hascii : AllAscii "PUT with\tAUTO_COMPRESS=TRUE\x00".toList := by decide +kernel
  refine ⟨hascii, (fits_ascii_iff _ _ hascii).1.2 ⟨by decide +kernel, .inr (by decide +kernel)⟩⟩

end Spelling

end SpecCoverage
