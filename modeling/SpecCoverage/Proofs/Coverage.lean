-- SUMMARY: Summaries and the list of missing pairs agree with the rows they are made from, and with each other.
import Mathlib.Algebra.Ring.Nat
import Mathlib.Data.List.Flatten
import Mathlib.Data.List.Nodup
import SpecCoverage.Catalog
import SpecCoverage.Proofs.Build

/-!
# Coverage and what is missing

Summaries weigh shared features by their scenarios; the list of missing pairs weighs nothing, and
leaves out a feature whose scenarios all exclude the language. `Matrix.Counted` says what both owe
to the rows and where one follows from the other.
-/
namespace SpecCoverage

/-- The number of scenarios in rows. -/
def scenarioCount (rows : List Row) : Nat :=
  (rows.map (·.feature.scenarios.length)).sum

/-! ## Summaries -/

/-- A summary counts the scenarios of rows, and those among them that its language implements. -/
structure LanguageSummary.CountsRows (s : LanguageSummary) (rows : List Row) : Prop where
  total : s.total = scenarioCount rows
  implemented : s.implemented = scenarioCount (rows.filter (·.isImplementedFor s.language))
  implemented_le : s.implemented ≤ s.total
  complete_iff : s.implemented = s.total ↔
    ∀ r ∈ rows, r.feature.scenarios ≠ [] → r.isImplementedFor s.language = true

theorem scenarioCount_cons (r : Row) (rows : List Row) :
    scenarioCount (r :: rows) = r.feature.scenarios.length + scenarioCount rows := by
  simp [scenarioCount]

theorem scenarioCount_filter_le (p : Row → Bool) (rows : List Row) :
    scenarioCount (rows.filter p) ≤ scenarioCount rows := by
  induction rows with
  | nil => exact Nat.le_refl _
  | cons r rows ih =>
    rw [List.filter_cons, scenarioCount_cons]
    split
    · rw [scenarioCount_cons]
      omega
    · omega

/-- A selection of rows has all scenarios just when it leaves out rows without scenarios alone. -/
theorem scenarioCount_filter_eq_iff (p : Row → Bool) (rows : List Row) :
    scenarioCount (rows.filter p) = scenarioCount rows ↔
      ∀ r ∈ rows, r.feature.scenarios ≠ [] → p r = true := by
  induction rows with
  | nil => simp
  | cons r rows ih =>
    have hle := scenarioCount_filter_le p rows
    rw [List.filter_cons, scenarioCount_cons, List.forall_mem_cons, ← ih]
    by_cases hp : p r = true
    · rw [if_pos hp, scenarioCount_cons]
      simp [hp]
    · -- A row that is left out must weigh nothing, since the rest can only lose.
      rw [if_neg hp, ← List.length_pos_iff]
      constructor
      · intro h
        exact ⟨fun hpos => by omega, by omega⟩
      · rintro ⟨hempty, h⟩
        have hzero : ¬ 0 < r.feature.scenarios.length := fun hpos => hp (hempty hpos)
        omega

theorem LanguageSummary.ofRows_countsRows (rows : List Row) (l : Language) :
    (LanguageSummary.ofRows rows l).CountsRows (rows.filter (·.isShared)) where
  total := rfl
  implemented := rfl
  implemented_le := scenarioCount_filter_le _ _
  complete_iff := scenarioCount_filter_eq_iff _ _

/-! ## Missing pairs -/

/-- The entry of the list of missing pairs for a row and a language. -/
def Row.missingFor (r : Row) (l : Language) : Missing :=
  ⟨r.feature.path, r.feature.title, l⟩

/-- The entries that rows and languages can have, row by row and along the axis. -/
def Matrix.pairs (m : Matrix) : List Missing :=
  m.rows.flatMap fun r => m.languages.map r.missingFor

/-- The list of missing pairs holds the shared features that a language does not implement, but for
those whose scenarios all exclude the language. -/
structure Matrix.ListsMissing (m : Matrix) : Prop where
  mem_iff : ∀ r ∈ m.rows, ∀ l ∈ m.languages, r.missingFor l ∈ m.missing ↔
    r.isShared = true ∧ r.isImplementedFor l = false ∧
      ¬ (r.feature.scenarios ≠ [] ∧ ∀ s ∈ r.feature.scenarios, l ∈ s.excluded)
  pairs_nodup : (m.missing.map fun e => (e.featurePath, e.language)).Nodup
  ordered : m.missing.Sublist m.pairs

theorem Row.isMissingFor_iff {r : Row} {l : Language} :
    r.isMissingFor l = true ↔ r.isImplementedFor l = false ∧
      ¬ (r.feature.scenarios ≠ [] ∧ ∀ s ∈ r.feature.scenarios, l ∈ s.excluded) := by
  simp only [isMissingFor, Bool.and_eq_true, Bool.not_eq_true', Bool.or_eq_true,
    List.isEmpty_iff, List.all_eq_false, Scenario.isExcludedFor, decide_eq_true_eq, ne_eq, not_and,
    not_forall, exists_prop]
  refine and_congr_right fun _ => ⟨?_, ?_⟩
  · rintro (hempty | ⟨s, hs, hl⟩) hne
    · exact absurd hempty hne
    · exact ⟨s, hs, hl⟩
  · intro h
    by_cases hempty : r.feature.scenarios = []
    · exact .inl hempty
    · exact .inr (h hempty)

theorem Missing.mem_ofRows {axis : List Language} {rows : List Row} {e : Missing} :
    e ∈ Missing.ofRows axis rows ↔ ∃ r ∈ rows, ∃ l ∈ axis,
      r.isShared = true ∧ r.isMissingFor l = true ∧ r.missingFor l = e := by
  simp only [ofRows, List.mem_flatMap, List.mem_map, List.mem_filter]
  constructor
  · rintro ⟨r, ⟨hr, hshared⟩, l, ⟨hl, hmissing⟩, rfl⟩
    exact ⟨r, hr, l, hl, hshared, hmissing, rfl⟩
  · rintro ⟨r, hr, l, hl, hshared, hmissing, rfl⟩
    exact ⟨r, ⟨hr, hshared⟩, l, ⟨hl, hmissing⟩, rfl⟩

theorem Missing.ofRows_sublist (axis : List Language) (rows : List Row) :
    (Missing.ofRows axis rows).Sublist (rows.flatMap fun r => axis.map r.missingFor) :=
  (List.Sublist.flatMap_right _ fun _ _ => List.filter_sublist.map _).trans
    (List.filter_sublist.flatMap _)

/-- Rows of different paths and different languages make different pairs. -/
theorem Matrix.pairs_keys_nodup {m : Matrix} (hpaths : (m.rows.map (·.feature.path)).Nodup)
    (haxis : m.languages.Nodup) : (m.pairs.map fun e => (e.featurePath, e.language)).Nodup := by
  rw [pairs, List.map_flatMap]
  refine List.nodup_flatMap.2 ⟨?_, ?_⟩
  · intro r _
    rw [List.map_map]
    exact haxis.map fun l₁ l₂ h => congrArg Prod.snd h
  · refine (List.pairwise_map.1 hpaths).imp fun {r₁ r₂} hne => ?_
    refine List.disjoint_left.2 fun {e} he₁ he₂ => ?_
    simp only [List.map_map, List.mem_map, Function.comp_apply, Row.missingFor] at he₁ he₂
    obtain ⟨l₁, -, rfl⟩ := he₁
    obtain ⟨l₂, -, h⟩ := he₂
    exact hne (congrArg Prod.fst h).symm

/-! ## Both together -/

/-- Summaries and missing pairs follow from the rows. A language that implements all scenarios
misses nothing where every shared feature has one, and a language that misses nothing implements all
that is not excluded for it. -/
structure Matrix.Counted (m : Matrix) : Prop where
  summary_languages : m.summaries.map (·.language) = m.languages
  counts : ∀ s ∈ m.summaries, s.CountsRows m.sharedRows
  same_total : ∀ s ∈ m.summaries, ∀ t ∈ m.summaries, s.total = t.total
  missing : m.ListsMissing
  none_missing_of_complete : ∀ s ∈ m.summaries, s.implemented = s.total →
    (∀ r ∈ m.sharedRows, r.feature.scenarios ≠ []) → ∀ e ∈ m.missing, e.language ≠ s.language
  excluded_of_none_missing : ∀ l ∈ m.languages, (∀ e ∈ m.missing, e.language ≠ l) →
    ∀ r ∈ m.sharedRows, r.isImplementedFor l = false →
      r.feature.scenarios ≠ [] ∧ ∀ s ∈ r.feature.scenarios, l ∈ s.excluded

namespace Matrix

variable {m : Matrix}

theorem listsMissing_of_ofRows (hmissing : m.missing = Missing.ofRows m.languages m.rows)
    (hpaths : (m.rows.map (·.feature.path)).Nodup) (haxis : m.languages.Nodup) :
    m.ListsMissing where
  mem_iff := by
    intro r hr l hl
    rw [hmissing, Missing.mem_ofRows, ← Row.isMissingFor_iff]
    constructor
    · -- The pair may have come from another row; its path says that the row is the same.
      rintro ⟨r', hr', l', -, hshared, hmissing, heq⟩
      obtain ⟨hpath, -, rfl⟩ := Missing.mk.inj heq
      obtain rfl := List.inj_on_of_nodup_map hpaths hr' hr hpath
      exact ⟨hshared, hmissing⟩
    · rintro ⟨hshared, hmissing⟩
      exact ⟨r, hr, l, hl, hshared, hmissing, rfl⟩
  pairs_nodup := by
    rw [hmissing]
    exact (pairs_keys_nodup hpaths haxis).sublist ((Missing.ofRows_sublist _ _).map _)
  ordered := by
    rw [hmissing]
    exact Missing.ofRows_sublist _ _

theorem mem_sharedRows {r : Row} : r ∈ m.sharedRows ↔ r ∈ m.rows ∧ r.isShared = true :=
  List.mem_filter

theorem countsRows_of_ofRows (hsummaries : m.summaries = m.languages.map (.ofRows m.rows)) :
    ∀ s ∈ m.summaries, s.CountsRows m.sharedRows := by
  rw [hsummaries]
  intro s hs
  obtain ⟨l, -, rfl⟩ := List.mem_map.1 hs
  exact LanguageSummary.ofRows_countsRows m.rows l

theorem counted_of_ofRows (hsummaries : m.summaries = m.languages.map (.ofRows m.rows))
    (hmissing : m.missing = Missing.ofRows m.languages m.rows)
    (hpaths : (m.rows.map (·.feature.path)).Nodup) (haxis : m.languages.Nodup) : m.Counted where
  summary_languages := by
    rw [hsummaries, List.map_map]
    exact List.map_id _
  counts := countsRows_of_ofRows hsummaries
  same_total := by
    intro s hs t ht
    rw [(countsRows_of_ofRows hsummaries s hs).total, (countsRows_of_ofRows hsummaries t ht).total]
  missing := listsMissing_of_ofRows hmissing hpaths haxis
  none_missing_of_complete := by
    intro s hs hcomplete hscenarios e he hlanguage
    rw [hmissing, Missing.mem_ofRows] at he
    obtain ⟨r, hr, l, -, hshared, hmissing, rfl⟩ := he
    obtain rfl : l = s.language := hlanguage
    have hrow : r ∈ m.sharedRows := mem_sharedRows.2 ⟨hr, hshared⟩
    have himpl := (countsRows_of_ofRows hsummaries s hs).complete_iff.1 hcomplete r hrow
      (hscenarios r hrow)
    rw [(Row.isMissingFor_iff.1 hmissing).1] at himpl
    cases himpl
  excluded_of_none_missing := by
    intro l hl hnone r hr himpl
    obtain ⟨hrow, hshared⟩ := mem_sharedRows.1 hr
    have hnot : r.isMissingFor l ≠ true := by
      intro hmiss
      refine hnone (r.missingFor l) ?_ rfl
      rw [hmissing]
      exact Missing.mem_ofRows.2 ⟨r, hrow, l, hl, hshared, hmiss, rfl⟩
    rw [Ne, Row.isMissingFor_iff] at hnot
    by_contra hexcluded
    exact hnot ⟨himpl, hexcluded⟩

theorem build_paths_nodup {σ : Type} {find : LineFinder σ} {policy : LanguagePolicy}
    {features : List Feature} {verdicts : List FeatureVerdict} {crossReferences : CrossReferences}
    {s : σ} (hpaths : (features.map (·.path)).Nodup) :
    (((build find policy features verdicts crossReferences).run s).1.rows.map
      (·.feature.path)).Nodup := by
  have hrows : ((build find policy features verdicts crossReferences).run s).1.rows.map
      (·.feature.path) = (features.mergeSort featureBefore).map (·.path) := by
    rw [← build_features, List.map_map]
    rfl
  rw [hrows]
  exact ((List.mergeSort_perm features featureBefore).map _).nodup_iff.2 hpaths

end Matrix

/-- The summaries and missing pairs of a built matrix follow from its rows. -/
theorem Catalog.matrix_counted (c : Catalog) (d : Disk) (features : List Feature)
    (verdicts : List FeatureVerdict) (crossReferences : CrossReferences)
    (hpaths : (features.map (·.path)).Nodup) :
    (c.matrix d features verdicts crossReferences).1.Counted :=
  Matrix.counted_of_ofRows rfl rfl (Matrix.build_paths_nodup hpaths) LanguagePolicy.order_nodup

theorem Catalog.matrix_counted_logins :
    ([Feature.userLogin, .adminLogin].map (·.path)).Nodup ∧
      ((start ⟨"/w"⟩ .default).matrix ⟨[], [], 0⟩ [.userLogin, .adminLogin] [.userLogin]
        ∅).1.Counted :=
  ⟨by decide, matrix_counted _ _ _ _ _ (by decide)⟩

end SpecCoverage
