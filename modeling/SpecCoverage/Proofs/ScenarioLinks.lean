-- SUMMARY: The links of a scenario for a language are those of the records that a test for it asserts, each once and in order.
import SpecCoverage.Proofs.RecordLinks

/-!
# Links of scenarios

`Row.LinksTo` says what the links of a row owe to records: each scenario is linked, for each
language, to just the records that have a test for it, in the order of kind and identifier. Nothing
else is kept in the row, not even an empty list.
-/
namespace SpecCoverage

/-! ## What is said of links -/

/-- Has a record a test in a language whose name stands for a scenario? -/
def CrossRecord.Asserts (r : CrossRecord) (l : Language) (scenario : String) : Prop :=
  ∃ tests, r.implementations.get? l = some tests ∧
    ∃ i ∈ tests, Spelling.fits i.testMethod scenario = true

/-- By kind, then by identifier. -/
def RecordLink.Before (j k : RecordLink) : Prop :=
  j.kind.rank < k.kind.rank ∨ j.kind = k.kind ∧ j.id < k.id

/-- A row links its scenarios to records. -/
structure Row.LinksTo (r : Row) (axis : List Language) (records : List CrossRecord) : Prop where
  increasing : ∀ s ∈ r.feature.scenarioNames, ∀ l ∈ axis,
    (r.linksOf s l).Pairwise RecordLink.Before
  linked : ∀ s ∈ r.feature.scenarioNames, ∀ l ∈ axis, ∀ kind id,
    (∃ k ∈ r.linksOf s l, k.kind = kind ∧ k.id = id) ↔
      ∃ record ∈ records, record.kind = kind ∧ record.id = id ∧ record.Asserts l s
  anchored : ∀ s l, ∀ k ∈ r.linksOf s l,
    (∃ record ∈ records, record.kind = k.kind ∧ record.id = k.id) ∧
      ∀ record ∈ records, record.kind = k.kind → record.id = k.id → k.anchor = record.anchor
  scenarios : ∀ s byLanguage, r.links.get? s = some byLanguage →
    s ∈ r.feature.scenarioNames ∧ byLanguage.entries ≠ []
  languages : ∀ s byLanguage l ks, r.links.get? s = some byLanguage →
    byLanguage.get? l = some ks → l ∈ axis ∧ ks ≠ []

/-- Every row of a matrix links its scenarios to the records of the matrix. -/
def Matrix.LinksRecords (m : Matrix) : Prop :=
  ∀ r ∈ m.rows, r.LinksTo m.languages m.crossReferences.values.flatten

/-! ## Links and records -/

theorem CrossRecord.testedBy_iff {r : CrossRecord} {l : Language} {scenario : String} :
    r.testedBy l (Spelling.reducedForms scenario) = true ↔ r.Asserts l scenario := by
  rw [testedBy, Asserts, List.any_eq_true]
  cases r.implementations.get? l with
  | none => simp
  | some tests =>
    simp only [Option.getD_some, Option.some.injEq, exists_eq_left']
    rfl

/-- Links that carry the anchors of their kind and identifier are told apart by these. -/
theorem RecordLink.before_of_compare {j k : RecordLink} (h : compare j k = .lt)
    (hj : j.anchor = anchorFor j.kind j.id) (hk : k.anchor = anchorFor k.kind k.id) :
    j.Before k := by
  have hthen : (compare j.kind k.kind).then
      ((compare j.id k.id).then (compare j.anchor k.anchor)) = .lt := h
  rcases Ordering.then_eq_lt.1 hthen with hkind | ⟨hkind, hrest⟩
  · exact .inl (Nat.compare_eq_lt.1 hkind)
  · have hkinds : j.kind = k.kind := Std.LawfulEqCmp.eq_of_compare hkind
    rcases Ordering.then_eq_lt.1 hrest with hid | ⟨hid, hanchor⟩
    · exact .inr ⟨hkinds, compareOfLessAndEq_eq_lt.1 hid⟩
    · have hids : j.id = k.id := Std.LawfulEqCmp.eq_of_compare hid
      rw [hj, hk, hkinds, hids] at hanchor
      simp at hanchor

namespace Row

variable {r : Row} {records : List CrossRecord} {axis : List Language} {scenario : String}
  {l : Language} {k : RecordLink}

/-- For a scenario and a language the row has the links of the records that are tested there. -/
theorem linksOf_eq (hr : r.links = linkTable records axis r.feature.scenarioNames)
    (hs : scenario ∈ r.feature.scenarioNames) (hl : l ∈ axis) :
    r.linksOf scenario l = (linksFor records (Spelling.reducedForms scenario) l).toList := by
  rw [linksOf, hr, get?_linkTable hl]
  cases hempty : (linksFor records (Spelling.reducedForms scenario) l).isEmpty with
  | false => simp [hs]
  | true =>
    have hnil := List.isEmpty_iff.1 hempty
    simp [hnil]

theorem anchor_of_mem_linksOf (hr : r.links = linkTable records axis r.feature.scenarioNames)
    (hk : k ∈ r.linksOf scenario l) : k.anchor = anchorFor k.kind k.id := by
  obtain ⟨record, -, -, rfl⟩ := exists_record_of_mem_linksOf hr hk
  rfl

theorem linksTo (hr : r.links = linkTable records axis r.feature.scenarioNames) :
    r.LinksTo axis records where
  increasing := by
    intro s hs l hl
    have hsorted : (r.linksOf s l).Pairwise fun j k => compare j k = .lt := by
      rw [linksOf_eq hr hs hl]
      exact SortedSet.sorted _
    refine hsorted.imp_of_mem fun hj hk h => ?_
    exact RecordLink.before_of_compare h (anchor_of_mem_linksOf hr hj) (anchor_of_mem_linksOf hr hk)
  linked := by
    intro s hs l hl kind id
    simp only [linksOf_eq hr hs hl, mem_linksFor, CrossRecord.testedBy_iff]
    constructor
    · rintro ⟨_, ⟨record, hrecord, hasserts, rfl⟩, rfl, rfl⟩
      exact ⟨record, hrecord, rfl, rfl, hasserts⟩
    · rintro ⟨record, hrecord, rfl, rfl, hasserts⟩
      exact ⟨record.link, ⟨record, hrecord, hasserts, rfl⟩, rfl, rfl⟩
  anchored := by
    intro s l k hk
    obtain ⟨record, hrecord, -, hlink⟩ := exists_record_of_mem_linksOf hr hk
    refine ⟨⟨record, hrecord, congrArg (·.kind) hlink, congrArg (·.id) hlink⟩, ?_⟩
    intro other _ hkind hid
    rw [anchor_of_mem_linksOf hr hk, CrossRecord.anchor, hkind, hid]
  scenarios := by
    intro s byLanguage hs
    obtain ⟨hname, hne, -⟩ := of_get?_linkTable (hr ▸ hs)
    exact ⟨hname, hne⟩
  languages := by
    intro s byLanguage l ks hs hl
    obtain ⟨-, -, hlanguages⟩ := of_get?_linkTable (hr ▸ hs)
    obtain ⟨haxis, hne, -⟩ := hlanguages l ks hl
    exact ⟨haxis, hne⟩

end Row

/-- Whatever the features, the verdicts and the records are, each row of the matrix is linked to
just the records that its tests assert. -/
theorem Catalog.matrix_linksRecords (c : Catalog) (d : Disk) (features : List Feature)
    (verdicts : List FeatureVerdict) (crossReferences : CrossReferences) :
    (c.matrix d features verdicts crossReferences).1.LinksRecords :=
  fun _ hr => Row.linksTo (Matrix.links_of_mem_rows hr)

end SpecCoverage
