-- SUMMARY: What the built matrix consists of: its axis, its rows, and the entry of each row for each language.
import SpecCoverage.Matrix.Build
import SpecCoverage.Proofs.Join
import SpecCoverage.Proofs.LanguageOrder
import SpecCoverage.Proofs.Traversal

/-!
# The built matrix, part by part

The axis, the rows and the entries are made one after the other, and each looks up the verdict of a
feature again. All of them find `FeatureVerdict.joined?`, so the parts of a matrix can be spoken of
without the index and without the state of the line finder.
-/
namespace SpecCoverage

variable {σ : Type} {find : LineFinder σ}

/-! ## Entries -/

/-- The result of a feature is what its verdict says, with the lines found in some state. -/
theorem resultFor_run (f : Feature) (verdict? : Option FeatureVerdict) (l : Language) (s : σ) :
    ((resultFor find f verdict? l).run s).1 =
      (verdict?.bind (·.languages.get? l)).map fun v =>
        v.result l f.scenarioNames ((v.findLines find f.scenarioNames).run s).1 := by
  unfold resultFor
  cases verdict?.bind (·.languages.get? l) with
  | none => rfl
  | some v => rfl

/-- The entries of a feature are those of the languages of the axis, each once. -/
theorem get?_entriesFor (axis : List Language) (f : Feature) (verdict? : Option FeatureVerdict)
    (l : Language) (s : σ) :
    ∃ s', ((entriesFor find axis f verdict?).run s).1.get? l =
      if l ∈ axis then some ((resultFor find f verdict? l).run s').1 else none := by
  let entry (l : Language) : StateM σ (Language × Option LanguageResult) :=
    do return (l, ← resultFor find f verdict? l)
  have hrun : ((entriesFor find axis f verdict?).run s).1 =
      .ofList ((axis.mapM entry).run s).1 := rfl
  have hkeys : ((axis.mapM entry).run s).1.map (·.1) = axis := by
    rw [Traversal.map_mapM_eq (h := id) fun _ _ => rfl, List.map_id]
  rw [hrun]
  by_cases hl : l ∈ axis
  · simp only [if_pos hl]
    have hsome : ((SortedMap.ofList ((axis.mapM entry).run s).1).get? l).isSome := by
      rwa [SortedMap.get?_ofList_isSome_iff, hkeys]
    obtain ⟨e, he⟩ := Option.isSome_iff_exists.1 hsome
    obtain ⟨a, -, s', hgives⟩ :=
      Traversal.exists_gives_of_mem_mapM (SortedMap.mem_of_get?_ofList he)
    obtain ⟨rfl, rfl⟩ := Prod.mk.inj hgives
    exact ⟨s', he⟩
  · refine ⟨s, ?_⟩
    rw [if_neg hl, ← Option.not_isSome_iff_eq_none, SortedMap.get?_ofList_isSome_iff, hkeys]
    exact hl

namespace Matrix

variable {policy : LanguagePolicy} {features : List Feature} {verdicts : List FeatureVerdict}
  {crossReferences : CrossReferences} {s : σ}

/-! ## The axis -/

theorem mem_axisOf {l : Language} :
    l ∈ axisOf policy (.ofVerdicts verdicts) features ↔
      ∃ f ∈ features, ∃ v, FeatureVerdict.joined? verdicts f = some v ∧
        (v.languages.get? l).isSome := by
  simp only [axisOf, LanguagePolicy.mem_order, List.mem_flatMap, List.mem_filterMap,
    VerdictIndex.lookup?_ofVerdicts, SortedMap.mem_keys_iff]
  constructor
  · rintro ⟨v, ⟨f, hf, hv⟩, hl⟩
    exact ⟨f, hf, v, hv, hl⟩
  · rintro ⟨f, hf, v, hv, hl⟩
    exact ⟨v, ⟨f, hf, hv⟩, hl⟩

/-- The axis does not depend on the order of the features. -/
theorem mem_build_languages {l : Language} :
    l ∈ ((build find policy features verdicts crossReferences).run s).1.languages ↔
      ∃ f ∈ features, ∃ v, FeatureVerdict.joined? verdicts f = some v ∧
        (v.languages.get? l).isSome := by
  have haxis : ((build find policy features verdicts crossReferences).run s).1.languages =
      axisOf policy (.ofVerdicts verdicts) (features.mergeSort featureBefore) := rfl
  rw [haxis, mem_axisOf]
  simp only [List.mem_mergeSort]

/-! ## Rows -/

theorem build_features :
    ((build find policy features verdicts crossReferences).run s).1.rows.map (·.feature) =
      features.mergeSort featureBefore := by
  have hrows : ((build find policy features verdicts crossReferences).run s).1.rows.map
      (·.feature) = (features.mergeSort featureBefore).map id :=
    Traversal.map_mapM_eq fun _ _ => rfl
  rw [hrows, List.map_id]

theorem mem_features_of_mem_rows {r : Row}
    (hr : r ∈ ((build find policy features verdicts crossReferences).run s).1.rows) :
    r.feature ∈ features := by
  rw [← List.mem_mergeSort, ← build_features]
  exact List.mem_map_of_mem hr

/-- A matrix has something to show where some feature has a verdict with a language. -/
theorem build_isEmpty_of_joined {f : Feature} {v : FeatureVerdict} {l : Language}
    (hf : f ∈ features) (hv : FeatureVerdict.joined? verdicts f = some v)
    (hl : (v.languages.get? l).isSome) :
    ((build find policy features verdicts crossReferences).run s).1.isEmpty = false := by
  have hlanguages : l ∈
      ((build find policy features verdicts crossReferences).run s).1.languages :=
    mem_build_languages.2 ⟨f, hf, v, hv, hl⟩
  have hrow : f ∈ ((build find policy features verdicts crossReferences).run s).1.rows.map
      (·.feature) := by
    rw [build_features]
    exact List.mem_mergeSort.2 hf
  obtain ⟨r, hr, -⟩ := List.mem_map.1 hrow
  simp [isEmpty, List.ne_nil_of_mem hr, List.ne_nil_of_mem hlanguages]

/-- The entries of a row are those that its feature has in some state. -/
theorem languages_of_mem_rows {r : Row}
    (hr : r ∈ ((build find policy features verdicts crossReferences).run s).1.rows) :
    ∃ s', r.languages =
      ((entriesFor find ((build find policy features verdicts crossReferences).run s).1.languages
        r.feature (FeatureVerdict.joined? verdicts r.feature)).run s').1 := by
  obtain ⟨f, -, s', rfl⟩ := Traversal.exists_gives_of_mem_mapM hr
  exact ⟨s', by rw [← VerdictIndex.lookup?_ofVerdicts]; rfl⟩

/-- A row has an entry for a language just when the language is on the axis. -/
theorem get?_languages_isSome_iff {r : Row} {l : Language}
    (hr : r ∈ ((build find policy features verdicts crossReferences).run s).1.rows) :
    (r.languages.get? l).isSome ↔
      l ∈ ((build find policy features verdicts crossReferences).run s).1.languages := by
  obtain ⟨s₁, hentries⟩ := languages_of_mem_rows hr
  obtain ⟨s₂, hget⟩ := get?_entriesFor _ r.feature _ l s₁
  rw [hentries, hget]
  split <;> simp_all

/-- What a row says for a language is what the verdict joined to its feature says. -/
theorem result?_of_mem_rows {r : Row} (l : Language)
    (hr : r ∈ ((build find policy features verdicts crossReferences).run s).1.rows) :
    ∃ s', r.result? l =
      ((FeatureVerdict.joined? verdicts r.feature).bind (·.languages.get? l)).map fun v =>
        v.result l r.feature.scenarioNames
          ((v.findLines find r.feature.scenarioNames).run s').1 := by
  obtain ⟨s₁, hentries⟩ := languages_of_mem_rows hr
  obtain ⟨s₂, hget⟩ := get?_entriesFor _ r.feature _ l s₁
  refine ⟨s₂, ?_⟩
  rw [Row.result?, hentries, hget]
  split
  · rw [Option.join_some, resultFor_run]
  · rename_i hl
    -- A language that the verdict has would be on the axis.
    cases hv : FeatureVerdict.joined? verdicts r.feature with
    | none => rfl
    | some v =>
      have hnone : v.languages.get? l = none := by
        rw [← Option.not_isSome_iff_eq_none]
        intro hsome
        exact hl (mem_build_languages.2 ⟨r.feature, mem_features_of_mem_rows hr, v, hv, hsome⟩)
      simp [hnone]

end Matrix

end SpecCoverage
