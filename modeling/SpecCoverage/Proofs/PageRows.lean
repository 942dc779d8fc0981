-- SUMMARY: Which rows of a matrix the parts of a report page list.
import SpecCoverage.Page.View
import SpecCoverage.Proofs.FullRank

/-!
# Rows on the page

The overview and the breakdown list rows by folder, the tab of single-language features lists them
by owner. Grouping neither adds nor loses a row, and the rows of a built matrix stand in the order
of their folders already.
-/
namespace SpecCoverage

variable {m : Matrix}

/-! ## Rows by folder -/

namespace Matrix

/-- The rows in the order in which a page lists them, folder by folder. -/
def listedRows (m : Matrix) : List Row :=
  m.folders.values.flatten

theorem mem_rows_of_mem_listedRows {r : Row} (hr : r ∈ m.listedRows) : r ∈ m.rows := by
  obtain ⟨rows, hrows, hr⟩ := List.mem_flatten.1 hr
  obtain ⟨⟨folder, _⟩, hentry, rfl⟩ := List.mem_map.1 hrows
  obtain ⟨_, hmem, hr⟩ := List.mem_map.1 (SortedMap.mem_of_mem_group hentry hr)
  exact (Prod.mk.inj hr).2 ▸ hmem

theorem isLE_folder_of_featureBefore {f g : Feature} (h : featureBefore f g = true) :
    (compare f.folder g.folder).isLE := by
  change ((compare f.folder g.folder).then (compare f.path g.path)).isLE = true at h
  cases hfolder : compare f.folder g.folder with
  | gt => simp [hfolder] at h
  | lt => rfl
  | eq => rfl

/-- The rows of a built matrix are sorted by folder, so a page lists them in their order. -/
theorem build_listedRows {σ : Type} {find : LineFinder σ} {policy : LanguagePolicy}
    {features : List Feature} {verdicts : List FeatureVerdict} {crossReferences : CrossReferences}
    {s : σ} :
    ((build find policy features verdicts crossReferences).run s).1.listedRows =
      ((build find policy features verdicts crossReferences).run s).1.rows := by
  generalize hm : ((build find policy features verdicts crossReferences).run s).1 = m
  have hfeatures : (m.rows.map (·.feature)).Pairwise fun f g => featureBefore f g := by
    rw [← hm, build_features]
    exact pairwise_featureBefore_mergeSort features
  have hfolders : (m.rows.map fun r => (r.feature.folder, r)).Pairwise
      fun a b => (compare a.1 b.1).isLE :=
    List.pairwise_map.2 <| (List.pairwise_map.1 hfeatures).imp isLE_folder_of_featureBefore
  rw [listedRows, folders, SortedMap.flatten_values_group hfolders, List.map_map]
  exact List.map_id _

/-! ## Rows by owner -/

/-- The rows of the features that belong to a language. -/
def rowsOwnedBy (m : Matrix) (l : Language) : List Row :=
  m.rows.filter (·.feature.scope.owner? = some l)

/-- Each owner has its rows, in the order of their paths; other languages have none. -/
theorem get?_ownedRows (m : Matrix) (l : Language) :
    m.ownedRows.get? l =
      if m.rowsOwnedBy l = [] then none
      else some ((m.rowsOwnedBy l).mergeSort fun a b =>
        (compare a.feature.path b.feature.path).isLE) := by
  let owned := m.rows.filterMap fun r => r.feature.scope.owner?.map fun l => (l, r)
  have hvalues : (owned.filter (·.1 = l)).map (·.2) = m.rowsOwnedBy l := by
    simp only [owned, rowsOwnedBy]
    induction m.rows with
    | nil => rfl
    | cons r rows ih =>
      cases howner : r.feature.scope.owner? with
      | none => simpa [howner] using ih
      | some o => by_cases ho : o = l <;> simpa [howner, ho] using ih
  have hkeys : l ∈ owned.map (·.1) ↔ m.rowsOwnedBy l ≠ [] := by
    rw [← hvalues]
    simp [List.filter_eq_nil_iff]
  rw [ownedRows, SortedMap.get?_mapValues, SortedMap.get?_group, hvalues]
  by_cases hnil : m.rowsOwnedBy l = [] <;> simp [hkeys, hnil, owned]

end Matrix

/-! ## Parts of the page -/

namespace Page

/-- The owners on a page are the languages to which some feature belongs. -/
theorem mem_ownersOf {l : Language} :
    l ∈ ownersOf m.languages m.ownedRows ↔ m.rowsOwnedBy l ≠ [] := by
  have hget : (m.ownedRows.get? l).isSome ↔ m.rowsOwnedBy l ≠ [] := by
    rw [Matrix.get?_ownedRows]
    split <;> simp_all
  simp only [ownersOf, List.mem_append, List.mem_filter, SortedMap.contains, SortedMap.mem_keys_iff,
    decide_eq_true_eq, hget]
  tauto

theorem ownersOf_nodup (h : m.languages.Nodup) : (ownersOf m.languages m.ownedRows).Nodup := by
  refine List.nodup_append.2 ⟨h.filter _, m.ownedRows.keys_nodup.filter _, ?_⟩
  rintro l hl _ hl' rfl
  simp_all

/-- The rows listed for an owner are the rows of its features. -/
theorem getD_ownedRows_perm (m : Matrix) (l : Language) :
    ((m.ownedRows.get? l).getD []).Perm (m.rowsOwnedBy l) := by
  rw [Matrix.get?_ownedRows]
  split
  · rename_i hnil
    rw [hnil]
    exact .nil
  · exact List.mergeSort_perm ..

/-- A cell of the breakdown has no glyph, or it is the cell of a result. -/
theorem BreakdownCell.ofRow_cases (base? : Option String) (r : Row) (s : Scenario) (l : Language) :
    ofRow base? r s l = .notNeeded ∨ ofRow base? r s l = .todo ∨ ofRow base? r s l = .noResult ∨
      ∃ res, r.result? l = some res ∧ ofRow base? r s l = .ofResult base? r s l res := by
  unfold ofRow
  split
  · exact .inl rfl
  · split
    · exact .inr (.inl rfl)
    · split
      · rename_i res hres
        exact .inr (.inr (.inr ⟨res, hres, rfl⟩))
      · exact .inr (.inr (.inl rfl))

/-- A cell of the breakdown with a glyph: the language has a result, and the cell tells its status of
the scenario. -/
theorem BreakdownCell.of_ofRow_eq_result {base? : Option String} {r : Row} {s : Scenario}
    {l : Language} {passed : Bool} {source? : Option SourceLink} {links : List RecordLink}
    (h : BreakdownCell.ofRow base? r s l = .result passed source? links) :
    ∃ res, r.result? l = some res ∧ passed = (res.statuses.get? s.name == some .pass) ∧
      links = r.linksOf s.name l := by
  obtain hcell | hcell | hcell | ⟨res, hres, hcell⟩ := ofRow_cases base? r s l
  · cases hcell.symm.trans h
  · cases hcell.symm.trans h
  · cases hcell.symm.trans h
  · obtain ⟨rfl, -, rfl⟩ := BreakdownCell.result.inj (hcell.symm.trans h)
    exact ⟨res, hres, rfl, rfl⟩

/-- The overview lists the shared rows. -/
theorem flatMap_overviewOf (m : Matrix) :
    (overviewOf m).flatMap (·.rows) =
      (m.listedRows.filter (·.isShared)).map (.ofRow m.languages) := by
  simp only [overviewOf, Matrix.listedRows, SortedMap.values]
  induction m.folders.entries with
  | nil => rfl
  | cons e es ih =>
    rw [List.filterMap_cons, List.map_cons, List.flatten_cons, List.filter_append, List.map_append,
      ← ih]
    cases e.2.filter (·.isShared) with
    | nil => rfl
    | cons r rs => rfl

/-- The breakdown lists all rows. -/
theorem flatMap_breakdownOf (base? : Option String) (m : Matrix) :
    (breakdownOf base? m).flatMap (·.blocks) = m.listedRows.map (.ofRow base? m.languages) := by
  simp only [breakdownOf, Matrix.listedRows, SortedMap.values, List.map_flatten, List.flatMap_map,
    List.map_map]
  rfl

/-! ## Views -/

namespace View

/-- The rows of the overview, all folders together. -/
def overviewRows (v : View) : List OverviewRow :=
  v.overview.flatMap (·.rows)

/-- The blocks of the breakdown, all folders together. -/
def blocks (v : View) : List BreakdownBlock :=
  v.breakdown.flatMap (·.blocks)

end View

theorem overviewRows_ofMatrix {base? : Option String} (hlisted : m.listedRows = m.rows) :
    (View.ofMatrix base? m).overviewRows = m.sharedRows.map (.ofRow m.languages) := by
  rw [Matrix.sharedRows, ← hlisted]
  exact flatMap_overviewOf m

theorem blocks_ofMatrix {base? : Option String} (hlisted : m.listedRows = m.rows) :
    (View.ofMatrix base? m).blocks = m.rows.map (.ofRow base? m.languages) := by
  rw [← hlisted]
  exact flatMap_breakdownOf base? m

end Page

end SpecCoverage
