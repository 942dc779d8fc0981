-- SUMMARY: Every link of a built matrix is the link of one of its records.
import SpecCoverage.Catalog
import SpecCoverage.Proofs.Order
import SpecCoverage.Proofs.Traversal

/-!
# Links of the built matrix

The links of a row are tabulated by scenario and language. Each is the link of a record that has a
test for the scenario in the language, so it carries the anchor of that record.
-/
namespace SpecCoverage

/-! ## The table of links -/

theorem mem_linksFor {records : List CrossRecord} {forms : List (List Char)} {l : Language}
    {k : RecordLink} :
    k ∈ (linksFor records forms l).toList ↔
      ∃ r ∈ records, r.testedBy l forms = true ∧ r.link = k := by
  simp only [linksFor, ← SortedSet.mem_def, SortedSet.mem_ofList, List.mem_map, List.mem_filter,
    and_assoc]

/-- The table has nothing empty, and nothing for scenarios and languages it is not made for. -/
theorem of_get?_linkTable {records : List CrossRecord} {axis : List Language} {names : List String}
    {s : String} {byLanguage : SortedMap Language (List RecordLink)}
    (hs : (linkTable records axis names).get? s = some byLanguage) :
    s ∈ names ∧ byLanguage.entries ≠ [] ∧ ∀ l ks, byLanguage.get? l = some ks →
      l ∈ axis ∧ ks ≠ [] ∧ ks = (linksFor records (Spelling.reducedForms s) l).toList := by
  obtain ⟨name, hname, hrow⟩ := List.mem_filterMap.1 (SortedMap.mem_of_get?_ofList hs)
  dsimp only at hrow
  split at hrow
  · cases hrow
  · rename_i hsome
    obtain ⟨rfl, rfl⟩ := Prod.mk.inj (Option.some.inj hrow)
    refine ⟨hname, fun hempty => hsome ?_, fun l ks hl => ?_⟩
    · -- Every entry of the list has its key in the map that is made from it.
      refine List.isEmpty_iff.2 (List.eq_nil_iff_forall_not_mem.2 fun e he => ?_)
      have hkey := SortedMap.get?_ofList_isSome_iff.2 (List.mem_map_of_mem (f := (·.1)) he)
      rw [SortedMap.get?, hempty] at hkey
      cases hkey
    · obtain ⟨language, hlanguage, hentry⟩ :=
        List.mem_filterMap.1 (SortedMap.mem_of_get?_ofList hl)
      split at hentry
      · cases hentry
      · rename_i hlinks
        obtain ⟨rfl, rfl⟩ := Prod.mk.inj (Option.some.inj hentry)
        exact ⟨hlanguage, fun hnil => hlinks (List.isEmpty_iff.2 hnil), rfl⟩

/-- What the table has for a scenario and a language comes from records that are tested there. -/
theorem exists_record_of_linkTable {records : List CrossRecord} {axis : List Language}
    {names : List String} {s : String} {l : Language}
    {byLanguage : SortedMap Language (List RecordLink)} {ks : List RecordLink} {k : RecordLink}
    (hs : (linkTable records axis names).get? s = some byLanguage)
    (hl : byLanguage.get? l = some ks) (hk : k ∈ ks) :
    ∃ r ∈ records, r.testedBy l (Spelling.reducedForms s) = true ∧ r.link = k := by
  obtain ⟨-, -, hlanguages⟩ := of_get?_linkTable hs
  obtain ⟨-, -, rfl⟩ := hlanguages l ks hl
  exact mem_linksFor.1 hk

/-- Links are found language by language, whatever other languages are on the axis. -/
theorem get?_linkTable {records : List CrossRecord} {axis : List Language} {names : List String}
    {l : Language} (hl : l ∈ axis) (s : String) :
    ((linkTable records axis names).get? s).bind (·.get? l) =
      if s ∈ names ∧ (linksFor records (Spelling.reducedForms s) l).isEmpty = false then
        some (linksFor records (Spelling.reducedForms s) l).toList
      else none := by
  let found (s : String) (l : Language) : Option (List RecordLink) :=
    if (linksFor records (Spelling.reducedForms s) l).isEmpty then none
    else some (linksFor records (Spelling.reducedForms s) l).toList
  let byLanguage (s : String) : List (Language × List RecordLink) :=
    axis.filterMap fun l => (found s l).map (l, ·)
  let row (s : String) : Option (SortedMap Language (List RecordLink)) :=
    if (byLanguage s).isEmpty then none else some (.ofList (byLanguage s))
  have htable : linkTable records axis names =
      .ofList (names.filterMap fun s => (row s).map (s, ·)) := by
    simp only [linkTable, row, byLanguage, found, apply_ite (Option.map _), Option.map_none,
      Option.map_some]
  have hrow : (row s).bind (·.get? l) = found s l := by
    have hget : (SortedMap.ofList (byLanguage s)).get? l = found s l := by
      rw [SortedMap.get?_ofList_filterMap, if_pos hl]
    by_cases hempty : byLanguage s = []
    · rw [hempty] at hget
      simpa [row, hempty] using hget
    · simpa [row, hempty] using hget
  rw [htable, SortedMap.get?_ofList_filterMap]
  by_cases hs : s ∈ names
  · rw [if_pos hs, hrow]
    simp only [found, hs, true_and]
    cases (linksFor records (Spelling.reducedForms s) l).isEmpty <;> rfl
  · simp [hs]

/-! ## Rows -/

theorem Row.exists_of_mem_linksOf {r : Row} {scenario : String} {l : Language} {k : RecordLink}
    (hk : k ∈ r.linksOf scenario l) :
    ∃ byLanguage ks, r.links.get? scenario = some byLanguage ∧ byLanguage.get? l = some ks ∧
      k ∈ ks := by
  unfold linksOf at hk
  cases hscenario : r.links.get? scenario with
  | none => simp [hscenario] at hk
  | some byLanguage =>
    cases hlanguage : byLanguage.get? l with
    | none => simp [hscenario, hlanguage] at hk
    | some ks => exact ⟨byLanguage, ks, rfl, hlanguage, by simpa [hscenario, hlanguage] using hk⟩

/-- A link of a row comes from a record that has a test for the scenario in the language. -/
theorem Row.exists_record_of_mem_linksOf {r : Row} {records : List CrossRecord}
    {axis : List Language} {scenario : String} {l : Language} {k : RecordLink}
    (hr : r.links = linkTable records axis r.feature.scenarioNames)
    (hk : k ∈ r.linksOf scenario l) :
    ∃ record ∈ records, record.testedBy l (Spelling.reducedForms scenario) = true ∧
      record.link = k := by
  obtain ⟨byLanguage, ks, hscenario, hlanguage, hk⟩ := exists_of_mem_linksOf hk
  exact exists_record_of_linkTable (hr ▸ hscenario) hlanguage hk

namespace Matrix

variable {σ : Type} {find : LineFinder σ} {policy : LanguagePolicy} {features : List Feature}
  {verdicts : List FeatureVerdict} {crossReferences : CrossReferences} {s : σ}

theorem links_of_mem_rows {r : Row}
    (hr : r ∈ ((build find policy features verdicts crossReferences).run s).1.rows) :
    r.links = linkTable
      ((build find policy features verdicts crossReferences).run s).1.crossReferences.values.flatten
      ((build find policy features verdicts crossReferences).run s).1.languages
      r.feature.scenarioNames := by
  obtain ⟨f, -, s', rfl⟩ := Traversal.exists_gives_of_mem_mapM hr
  rfl

/-- A link leads to a record of the matrix that has a test for the scenario in the language. -/
theorem exists_record_of_mem_linksOf {r : Row} {scenario : String} {l : Language} {k : RecordLink}
    (hr : r ∈ ((build find policy features verdicts crossReferences).run s).1.rows)
    (hk : k ∈ r.linksOf scenario l) :
    ∃ record ∈
        ((build find policy features verdicts crossReferences).run
          s).1.crossReferences.values.flatten,
      record.testedBy l (Spelling.reducedForms scenario) = true ∧ record.link = k :=
  Row.exists_record_of_mem_linksOf (links_of_mem_rows hr) hk

/-- Every link carries the anchor that is made for its kind and identifier. -/
def AnchorsMade (m : Matrix) : Prop :=
  ∀ r ∈ m.rows, ∀ scenario l, ∀ k ∈ r.linksOf scenario l, k.anchor = anchorFor k.kind k.id

theorem build_anchorsMade :
    ((build find policy features verdicts crossReferences).run s).1.AnchorsMade := by
  intro r hr scenario l k hk
  obtain ⟨record, -, -, rfl⟩ := exists_record_of_mem_linksOf hr hk
  rfl

end Matrix

end SpecCoverage
