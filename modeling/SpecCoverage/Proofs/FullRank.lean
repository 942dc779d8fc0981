-- SUMMARY: The built matrix has full rank and says of each feature and language what the joined verdict says.
import SpecCoverage.Catalog
import SpecCoverage.Proofs.Build

/-!
# Full rank and exactness

`LanguageResult.Reports`, `Row.Exact` and `Matrix.Exact` say from the inside out what a matrix owes
to features and verdicts: a result follows the verdict of its language, a row has one entry for each
language of the axis, and the rows are the features. They speak of the report by search alone
(`FeatureVerdict.joined?`).
-/
namespace SpecCoverage

/-! ## Lines of tests -/

namespace Declaration

/-- A declaration gives a line to a sought scenario or to none. -/
theorem get?_assign_isSome {sought : List Sought} {lines : SortedMap String Nat} {d : Declaration}
    {name : String} (h : ((assign sought lines d).get? name).isSome) :
    name ∈ sought.map (·.scenario) ∨ (lines.get? name).isSome := by
  unfold assign at h
  split at h
  · rename_i s hs
    rw [SortedMap.get?_insert] at h
    split at h
    · rename_i hname
      subst hname
      exact .inl (List.mem_map_of_mem (List.mem_of_find?_eq_some hs))
    · exact .inr h
  · exact .inr h

/-- Lines are given to the scenarios that are asked for, and to no others. -/
theorem mem_of_get?_linesFor {scenarios : List String} {text name : String}
    (h : ((linesFor scenarios text).get? name).isSome) : name ∈ scenarios := by
  let sought := scenarios.map fun s => (⟨s, Spelling.reducedForms s⟩ : Sought)
  -- Declaration by declaration, the lines found so far are lines of the scenarios asked for.
  have hrun (ds : List Declaration) (lines : SortedMap String Nat)
      (hlines : ∀ n, (lines.get? n).isSome → n ∈ scenarios) :
      ∀ n, ((ds.foldl (assign sought) lines).get? n).isSome → n ∈ scenarios := by
    induction ds generalizing lines with
    | nil => exact hlines
    | cons d ds ih =>
      refine ih _ fun n hn => ?_
      rcases get?_assign_isSome hn with hs | hold
      · simpa [sought] using hs
      · exact hlines n hold
  exact hrun (scan text) ∅ (by simp) name h

end Declaration

/-- The line finder of a catalog knows lines of the scenarios it is asked for alone. -/
theorem Catalog.mem_of_get?_linesIn {d : Disk} {source : String} {scenarios : List String}
    {c : Catalog} {name : String}
    (h : (((linesIn d source scenarios).run c).1.get? name).isSome) : name ∈ scenarios := by
  cases htext : (c.sourceText d ⟨source⟩).1 with
  | ok t =>
    have hrun : ((linesIn d source scenarios).run c).1 = Declaration.linesFor scenarios t := by
      change (linesIn d source scenarios c).1 = _
      simp only [linesIn, htext]
    exact Declaration.mem_of_get?_linesFor (hrun ▸ h)
  | error e =>
    have hrun : ((linesIn d source scenarios).run c).1 = ∅ := by
      change (linesIn d source scenarios c).1 = _
      simp only [linesIn, htext]
    rw [hrun] at h
    cases h

theorem LanguageVerdict.mem_of_get?_findLines {d : Disk} {v : LanguageVerdict}
    {scenarios : List String} {c : Catalog} {name : String}
    (h : (((v.findLines (Catalog.linesIn d) scenarios).run c).1.get? name).isSome) :
    name ∈ scenarios := by
  unfold findLines at h
  split at h
  · exact Catalog.mem_of_get?_linesIn h
  · cases h

/-! ## Results -/

/-- A result says of the scenarios what a verdict says of them. -/
structure LanguageResult.Reports (res : LanguageResult) (v : LanguageVerdict) (l : Language)
    (scenarios : List String) : Prop where
  language : res.language = l
  sourcePath : res.sourcePath? = v.sourcePath?
  statuses : ∀ name status, res.statuses.get? name = some status ↔
    name ∈ scenarios ∧ (status = .fail ↔ name ∈ v.flagged ∨ v.unflagged = .fail)
  implemented : res.implemented = true ↔
    v.implemented = true ∧ ∀ name status, res.statuses.get? name = some status → status = .pass
  lines : ∀ name, (res.lines.get? name).isSome → name ∈ scenarios

namespace LanguageVerdict

theorem get?_statuses_result (v : LanguageVerdict) (l : Language) (scenarios : List String)
    (lines : SortedMap String Nat) (name : String) :
    (v.result l scenarios lines).statuses.get? name =
      if name ∈ scenarios then some (v.statusOf name) else none :=
  SortedMap.get?_ofList_map v.statusOf scenarios name

theorem implemented_result_iff (v : LanguageVerdict) (l : Language) (scenarios : List String)
    (lines : SortedMap String Nat) :
    (v.result l scenarios lines).implemented = true ↔
      v.implemented = true ∧
        ∀ name status, (v.result l scenarios lines).statuses.get? name = some status →
          status = .pass := by
  have himpl : (v.result l scenarios lines).implemented =
      (v.implemented && (v.result l scenarios lines).statuses.values.all (· == .pass)) := rfl
  simp only [himpl, Bool.and_eq_true, List.all_eq_true, beq_iff_eq, SortedMap.mem_values_iff]
  refine and_congr_right fun _ => ⟨?_, ?_⟩
  · intro h name status hstatus
    exact h status ⟨name, hstatus⟩
  · rintro h status ⟨name, hstatus⟩
    exact h name status hstatus

theorem result_reports {v : LanguageVerdict} {l : Language} {scenarios : List String}
    {lines : SortedMap String Nat} (hlines : ∀ name, (lines.get? name).isSome → name ∈ scenarios) :
    (v.result l scenarios lines).Reports v l scenarios where
  language := rfl
  sourcePath := rfl
  statuses := by
    intro name status
    rw [get?_statuses_result, ← statusOf_eq_fail_iff]
    split
    · rename_i hname
      cases status <;> cases v.statusOf name <;> simp [hname]
    · rename_i hname
      simp [hname]
  implemented := implemented_result_iff v l scenarios lines
  lines := hlines

end LanguageVerdict

/-! ## Rows and matrices -/

/-- A row says of each language of the axis what a verdict says of it, and nothing where the verdict
does not have the language. -/
structure Row.Exact (r : Row) (axis : List Language) (verdict? : Option FeatureVerdict) : Prop where
  keys : r.languages.keys.Perm axis
  present : ∀ l, (r.result? l).isSome ↔ ∃ fv, verdict? = some fv ∧ (fv.languages.get? l).isSome
  result : ∀ l res, r.result? l = some res →
    ∃ fv v, verdict? = some fv ∧ fv.languages.get? l = some v ∧
      res.Reports v l r.feature.scenarioNames

/-- A matrix says of features and languages what a report says of them. -/
structure Matrix.Exact (m : Matrix) (policy : LanguagePolicy) (features : List Feature)
    (verdicts : List FeatureVerdict) : Prop where
  rows_perm : (m.rows.map (·.feature)).Perm features
  rows_sorted : m.rows.Pairwise fun r s => featureBefore r.feature s.feature
  axis_nodup : m.languages.Nodup
  axis_order : m.languages.Pairwise policy.Precedes
  mem_axis : ∀ l, l ∈ m.languages ↔
    ∃ f ∈ features, ∃ fv, FeatureVerdict.joined? verdicts f = some fv ∧ (fv.languages.get? l).isSome
  row : ∀ r ∈ m.rows, r.Exact m.languages (FeatureVerdict.joined? verdicts r.feature)

namespace Matrix

theorem pairwise_featureBefore_mergeSort (features : List Feature) :
    (features.mergeSort featureBefore).Pairwise fun f g => featureBefore f g :=
  pairwise_mergeSort_isLE (compareLex (compareOn Feature.folder) (compareOn Feature.path)) features

end Matrix

namespace Catalog

variable {c : Catalog} {d : Disk} {features : List Feature} {verdicts : List FeatureVerdict}
  {crossReferences : CrossReferences}

theorem row_exact {r : Row}
    (hr : r ∈ (c.matrix d features verdicts crossReferences).1.rows) :
    r.Exact (c.matrix d features verdicts crossReferences).1.languages
      (FeatureVerdict.joined? verdicts r.feature) where
  keys := by
    refine (List.perm_ext_iff_of_nodup r.languages.keys_nodup LanguagePolicy.order_nodup).2 ?_
    intro l
    rw [SortedMap.mem_keys_iff]
    exact Matrix.get?_languages_isSome_iff hr
  present := by
    intro l
    obtain ⟨s, hs⟩ := Matrix.result?_of_mem_rows l hr
    rw [hs]
    cases FeatureVerdict.joined? verdicts r.feature <;> simp
  result := by
    intro l res hres
    obtain ⟨s, hs⟩ := Matrix.result?_of_mem_rows l hr
    rw [hs, Option.map_eq_some_iff] at hres
    obtain ⟨v, hv, rfl⟩ := hres
    obtain ⟨fv, hfv, hv⟩ := Option.bind_eq_some_iff.1 hv
    exact ⟨fv, v, hfv, hv, LanguageVerdict.result_reports fun _ =>
      LanguageVerdict.mem_of_get?_findLines⟩

theorem matrix_features :
    (c.matrix d features verdicts crossReferences).1.rows.map (·.feature) =
      features.mergeSort Matrix.featureBefore :=
  Matrix.build_features

/-- Whatever the features, the verdicts, the policy and the disk are, the matrix is exact. -/
theorem matrix_exact (c : Catalog) (d : Disk) (features : List Feature)
    (verdicts : List FeatureVerdict) (crossReferences : CrossReferences) :
    (c.matrix d features verdicts crossReferences).1.Exact c.policy features verdicts where
  rows_perm := by
    rw [matrix_features]
    exact List.mergeSort_perm features Matrix.featureBefore
  rows_sorted := by
    have hsorted : ((c.matrix d features verdicts crossReferences).1.rows.map (·.feature)).Pairwise
        fun f g => Matrix.featureBefore f g := by
      rw [matrix_features]
      exact Matrix.pairwise_featureBefore_mergeSort features
    exact List.pairwise_map.1 hsorted
  axis_nodup := LanguagePolicy.order_nodup
  axis_order := LanguagePolicy.order_pairwise_precedes
  mem_axis := fun _ => Matrix.mem_build_languages
  row := fun _ hr => row_exact hr

end Catalog

end SpecCoverage
