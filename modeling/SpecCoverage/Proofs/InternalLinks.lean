-- SUMMARY: Every link from one part of a report page to another leads to the block of its feature or record.
import SpecCoverage.Proofs.Coverage
import SpecCoverage.Proofs.PagePanels
import SpecCoverage.Proofs.RecordLinks

/-!
# Links inside a page

The overview, the tab of single-language features and the tab of missing pairs link to features, the
overview and the breakdown to records. The breakdown has a block for each row of the matrix and the
tabs of the kinds have one for each record, so every such link leads to a block, whichever way the
block is filled.
-/
namespace SpecCoverage

open Markup

/-! ## Records as a page lists them -/

/-- All records, kind by kind. -/
def recordsIn (x : CrossReferences) : List CrossRecord :=
  RecordKind.all.flatMap fun k => (x.get? k).getD []

/-- The records of a matrix as a page lists them. -/
def Matrix.listedRecords (m : Matrix) : List CrossRecord :=
  recordsIn m.crossReferences

/-- No record is left out, whatever kind the record itself says it is of. -/
theorem mem_recordsIn {x : CrossReferences} {r : CrossRecord} :
    r ∈ recordsIn x ↔ r ∈ x.values.flatten := by
  simp only [recordsIn, List.mem_flatMap, List.mem_flatten, SortedMap.mem_values_iff]
  constructor
  · rintro ⟨k, -, hr⟩
    cases hk : x.get? k with
    | none => simp [hk] at hr
    | some rs => exact ⟨rs, ⟨k, hk⟩, by simpa [hk] using hr⟩
  · rintro ⟨rs, ⟨k, hk⟩, hr⟩
    exact ⟨k, k.mem_all, by simpa [hk] using hr⟩

namespace Page

/-! ## Anchors that a page links to -/

/-- The anchor of a link to a part of the page. -/
def anchor? : MarkupValue → Option String
  | .text _ => none
  | .verbatim s => some (String.ofList s.toList.tail)

/-- The anchors that trees link to, in order. -/
def anchorsOf (ms : List Markup) : List String :=
  (valuesOfAll "href" ms).filterMap anchor?

@[simp] theorem anchor?_toPart (a : String) : anchor? (.toPart a) = some a := by
  simp [MarkupValue.toPart, anchor?]

@[simp] theorem SourceLink.anchor?_value (s : SourceLink) : anchor? s.value = none := rfl

/-- The records that a row of the overview links to. -/
def OverviewRow.recordLinks (r : OverviewRow) : List RecordLink :=
  r.cells.flatMap (·.links)

/-- The records that a block of the breakdown links to. -/
def BreakdownBlock.recordLinks (b : BreakdownBlock) : List RecordLink :=
  (b.rows.flatMap (·.cells)).flatMap (·.links)

namespace View

/-- The features in the tab of single-language features, all owners together. -/
def ownedFeatures (v : View) : List OwnedFeature :=
  v.owned.flatMap (·.features)

/-- The items in the tab of missing pairs, all languages together. -/
def missingItems (v : View) : List MissingItem :=
  v.missing.flatMap (·.items)

/-- The links to records, in the overview and in the breakdown. -/
def recordLinks (v : View) : List RecordLink :=
  v.overviewRows.flatMap (·.recordLinks) ++ v.blocks.flatMap (·.recordLinks)

end View

theorem anchorsOf_overviewTab {v : View} :
    anchorsOf (overviewTab v) =
      v.overviewRows.flatMap fun r => r.link.anchor :: r.recordLinks.map (·.anchor) := by
  rw [anchorsOf, hrefs_overviewTab, ← View.overviewRows]
  simp [OverviewRow.recordLinks, List.filterMap_flatMap, List.map_flatMap, List.filterMap_map]

theorem anchorsOf_ownedTab {v : View} :
    anchorsOf (ownedTab v) = v.ownedFeatures.map (·.link.anchor) := by
  rw [anchorsOf, hrefs_ownedTab, ← View.ownedFeatures]
  simp

theorem RecordTab.anchorsOf_html (t : RecordTab) : anchorsOf t.html = [] := by
  rw [anchorsOf, RecordTab.hrefs_html]
  simp

theorem BreakdownCell.anchorsOf_html (c : BreakdownCell) :
    anchorsOf c.html = c.links.map (·.anchor) := by
  have hsource : c.source?.toList.filterMap (anchor? ∘ SourceLink.value) = [] :=
    List.filterMap_eq_nil_iff.2 fun s _ => s.anchor?_value
  simp [anchorsOf, List.filterMap_map, hsource]

theorem anchorsOf_breakdownTab {v : View} :
    anchorsOf (breakdownTab v) = v.blocks.flatMap fun b => b.recordLinks.map (·.anchor) := by
  have hcell (c : BreakdownCell) :
      (valuesOfAll "href" c.html).filterMap anchor? = c.links.map (·.anchor) :=
    c.anchorsOf_html
  rw [anchorsOf, hrefs_breakdownTab, ← View.blocks]
  simp only [List.filterMap_flatMap, hcell, BreakdownBlock.recordLinks, List.map_flatMap]

theorem anchorsOf_missingTab {v : View} (hcomplete : v.complete = true → v.missing = []) :
    anchorsOf (missingTab v) = v.missingItems.map (·.link.anchor) := by
  rw [anchorsOf, hrefs_missingTab]
  split
  · rename_i h
    simp [View.missingItems, hcomplete h]
  · simp [View.missingItems]

/-- The links from one part of a page to another are those of its view. -/
theorem anchorsOf_body {title : String} {v : View}
    (hcomplete : v.complete = true → v.missing = []) :
    anchorsOf (body title v) =
      (v.overviewRows.flatMap fun r => r.link.anchor :: r.recordLinks.map (·.anchor)) ++
        v.ownedFeatures.map (·.link.anchor) ++
        (v.blocks.flatMap fun b => b.recordLinks.map (·.anchor)) ++
        v.missingItems.map (·.link.anchor) := by
  have hrecords :
      (v.records.flatMap fun t => valuesOfAll "href" t.html).filterMap anchor? = [] := by
    rw [List.filterMap_flatMap]
    exact List.flatMap_eq_nil_iff.2 fun t _ => t.anchorsOf_html
  rw [← anchorsOf_overviewTab, ← anchorsOf_ownedTab, ← anchorsOf_breakdownTab,
    ← anchorsOf_missingTab hcomplete, anchorsOf, hrefs_body]
  simp only [List.filterMap_append, hrecords, List.append_nil, anchorsOf]

/-! ## Blocks of a matrix -/

/-- What a page shows, if it shows anything. -/
def view? (o : Options) (m : Matrix) : Option View :=
  if m.isEmpty then none else some (.ofMatrix o.linkBase? m)

/-- The block of a row in the breakdown. -/
def featureBlock (o : Options) (m : Matrix) (r : Row) : Markup :=
  (BreakdownBlock.ofRow o.linkBase? m.languages r).element (m.languages.map (·.label))

/-- The block of a record in the tab of a kind. -/
def recordBlock (o : Options) (r : CrossRecord) : Markup :=
  (RecordBlock.ofRecord o.linkBase? r).element

section

variable {o : Options} {m : Matrix} {v : View}

theorem mem_view?_iff : v ∈ view? o m ↔ m.isEmpty = false ∧ v = .ofMatrix o.linkBase? m := by
  unfold view?
  cases m.isEmpty <;> simp [eq_comm]

theorem eq_ofMatrix_of_view? (hv : v ∈ view? o m) : v = .ofMatrix o.linkBase? m :=
  (mem_view?_iff.1 hv).2

theorem html_of_view? (hv : v ∈ view? o m) : html o m = document o.title (body o.title v) := by
  obtain ⟨hshown, rfl⟩ := mem_view?_iff.1 hv
  simp [html, hshown]

theorem blocksOf_html_of_view? (hv : v ∈ view? o m) :
    blocksOf (html o m) = blocksOf (body o.title v) := by
  obtain ⟨hshown, rfl⟩ := mem_view?_iff.1 hv
  simp [blocksOf_html, hshown]

theorem breakdownTab_mem_tabs : ∃ t ∈ tabs v, t.content = breakdownTab v :=
  ⟨_, List.mem_append_right _ List.mem_cons_self, rfl⟩

theorem recordTab_mem_tabs {t : RecordTab} (ht : t ∈ v.records) : t.tab ∈ tabs v :=
  List.mem_append_left _ (List.mem_append_right _ (List.mem_map_of_mem ht))

/-- What a link to an anchor finds in a tab, it finds on the page. -/
theorem mem_withId_html (hv : v ∈ view? o m) {t : Tab} (ht : t ∈ tabs v) {a : String} {e : Markup}
    (he : e ∈ withId a t.content) : e ∈ withId a (html o m) := by
  obtain ⟨hmem, hid⟩ := List.mem_filter.1 he
  refine List.mem_filter.2 ⟨?_, hid⟩
  rw [blocksOf_html_of_view? hv]
  exact mem_blocksOf_body ht hmem

theorem featureBlock_mem_withId (hlisted : m.listedRows = m.rows) {r : Row} (hr : r ∈ m.rows) :
    featureBlock o m r ∈
      withId (Link.featureAnchor r.feature.path) (breakdownTab (.ofMatrix o.linkBase? m)) := by
  refine List.mem_filter.2 ⟨?_, ?_⟩
  · rw [blocksOf_breakdownTab, ← View.blocks, blocks_ofMatrix hlisted, List.map_map]
    exact List.mem_map_of_mem hr
  · rw [featureBlock, BreakdownBlock.id?_element]
    exact decide_eq_true rfl

theorem recordBlock_mem_withId {record : CrossRecord} (hrecord : record ∈ m.listedRecords) :
    ∃ t ∈ (View.ofMatrix o.linkBase? m).records,
      recordBlock o record ∈ withId record.anchor t.html := by
  obtain ⟨k, hk, hmem⟩ := List.mem_flatMap.1 hrecord
  refine ⟨_, List.mem_map_of_mem hk, List.mem_filter.2 ⟨?_, ?_⟩⟩
  · rw [blocksOf_recordTab, List.map_map]
    exact List.mem_map_of_mem hmem
  · rw [recordBlock, RecordBlock.id?_element]
    exact decide_eq_true rfl

theorem exists_row_of_mem_ownedFeatures {base? : Option String} {f : OwnedFeature}
    (hf : f ∈ (View.ofMatrix base? m).ownedFeatures) :
    ∃ r ∈ m.rows, ∃ l, f = .ofRow l r := by
  obtain ⟨section', hsection, hf⟩ := List.mem_flatMap.1 hf
  obtain ⟨l, -, rfl⟩ := List.mem_map.1 hsection
  obtain ⟨r, hr, rfl⟩ := List.mem_map.1 hf
  have hr := (getD_ownedRows_perm m l).mem_iff.1 hr
  exact ⟨r, (List.mem_filter.1 hr).1, l, rfl⟩

theorem exists_of_mem_missingItems {base? : Option String} {i : MissingItem}
    (hi : i ∈ (View.ofMatrix base? m).missingItems) : ∃ e ∈ m.missing, i = .ofMissing e := by
  obtain ⟨section', hsection, hi⟩ := List.mem_flatMap.1 hi
  obtain ⟨l, -, hl⟩ := List.mem_filterMap.1 hsection
  split at hl
  · cases hl
  · obtain rfl := Option.some.inj hl
    obtain ⟨e, he, rfl⟩ := List.mem_map.1 hi
    exact ⟨e, (List.mem_filter.1 he).1, rfl⟩

theorem exists_of_mem_rowLinks {r : Row} {l : Language} {k : RecordLink} (hk : k ∈ rowLinks r l) :
    ∃ scenario, k ∈ r.linksOf scenario l := by
  rw [rowLinks, ← SortedSet.mem_def, SortedSet.mem_ofList] at hk
  obtain ⟨s, -, hk⟩ := List.mem_flatMap.1 hk
  exact ⟨s.name, hk⟩

theorem exists_of_mem_overviewRow {r : Row} {k : RecordLink}
    (hk : k ∈ (OverviewRow.ofRow m.languages r).recordLinks) :
    ∃ scenario l, k ∈ r.linksOf scenario l := by
  obtain ⟨c, hc, hk⟩ := List.mem_flatMap.1 hk
  obtain ⟨l, -, rfl⟩ := List.mem_map.1 hc
  obtain ⟨scenario, hk⟩ := exists_of_mem_rowLinks hk
  exact ⟨scenario, l, hk⟩

theorem exists_of_mem_breakdownBlock {base? : Option String} {r : Row} {k : RecordLink}
    (hk : k ∈ (BreakdownBlock.ofRow base? m.languages r).recordLinks) :
    ∃ scenario l, k ∈ r.linksOf scenario l := by
  obtain ⟨c, hc, hk⟩ := List.mem_flatMap.1 hk
  obtain ⟨row, hrow, hc⟩ := List.mem_flatMap.1 hc
  obtain ⟨s, -, rfl⟩ := List.mem_map.1 hrow
  obtain ⟨l, -, rfl⟩ := List.mem_map.1 hc
  cases hcell : BreakdownCell.ofRow base? r s l with
  | notNeeded => simp [hcell, BreakdownCell.links] at hk
  | todo => simp [hcell, BreakdownCell.links] at hk
  | noResult => simp [hcell, BreakdownCell.links] at hk
  | result passed source? links =>
    obtain ⟨_, -, -, rfl⟩ := BreakdownCell.of_ofRow_eq_result hcell
    rw [hcell] at hk
    exact ⟨s.name, l, hk⟩

theorem exists_of_mem_recordLinks {base? : Option String} (hlisted : m.listedRows = m.rows)
    {k : RecordLink} (hk : k ∈ (View.ofMatrix base? m).recordLinks) :
    ∃ r ∈ m.rows, ∃ scenario l, k ∈ r.linksOf scenario l := by
  rw [View.recordLinks, overviewRows_ofMatrix hlisted, blocks_ofMatrix hlisted, List.mem_append,
    List.flatMap_map, List.flatMap_map] at hk
  obtain hk | hk := hk
  · obtain ⟨r, hr, hk⟩ := List.mem_flatMap.1 hk
    exact ⟨r, (Matrix.mem_sharedRows.1 hr).1, exists_of_mem_overviewRow hk⟩
  · obtain ⟨r, hr, hk⟩ := List.mem_flatMap.1 hk
    exact ⟨r, hr, exists_of_mem_breakdownBlock hk⟩

end

/-! ## No link dangles -/

/-- The links of a view lead to blocks of its tabs, each to that of the feature or of the record
that it is about. -/
structure ViewResolves (o : Options) (m : Matrix) (v : View) : Prop where
  overview : ∀ row ∈ v.overviewRows, ∃ r ∈ m.rows,
    row = .ofRow m.languages r ∧ featureBlock o m r ∈ withId row.link.anchor (breakdownTab v)
  owned : ∀ f ∈ v.ownedFeatures, ∃ r ∈ m.rows, ∃ l,
    f = .ofRow l r ∧ featureBlock o m r ∈ withId f.link.anchor (breakdownTab v)
  missing : ∀ i ∈ v.missingItems, ∃ r ∈ m.rows, ∃ l,
    i = .ofMissing (r.missingFor l) ∧ featureBlock o m r ∈ withId i.link.anchor (breakdownTab v)
  records : ∀ k ∈ v.recordLinks, ∃ record ∈ m.listedRecords,
    k = record.link ∧ ∃ t ∈ v.records, recordBlock o record ∈ withId k.anchor t.html

/-- No link of a page to a part of it dangles, and each leads to what it is about. -/
structure LinksResolve (o : Options) (m : Matrix) : Prop where
  resolves : ∀ a ∈ anchorsOf (html o m), withId a (html o m) ≠ []
  view : ∀ v ∈ view? o m, html o m = document o.title (body o.title v) ∧ ViewResolves o m v

section

variable {o : Options} {m : Matrix} {v : View}

/-- What links resolve for: rows in the order of their folders, missing pairs of rows, and links of
records. -/
theorem viewResolves_ofMatrix (hlisted : m.listedRows = m.rows)
    (hmissing : ∀ e ∈ m.missing, ∃ r ∈ m.rows, ∃ l, r.missingFor l = e)
    (hlinks : ∀ r ∈ m.rows, ∀ scenario l, ∀ k ∈ r.linksOf scenario l,
      ∃ record ∈ m.listedRecords, record.link = k) :
    ViewResolves o m (.ofMatrix o.linkBase? m) where
  overview := by
    intro row hrow
    rw [overviewRows_ofMatrix hlisted] at hrow
    obtain ⟨r, hr, rfl⟩ := List.mem_map.1 hrow
    have hr := (Matrix.mem_sharedRows.1 hr).1
    exact ⟨r, hr, rfl, featureBlock_mem_withId hlisted hr⟩
  owned := by
    intro f hf
    obtain ⟨r, hr, l, rfl⟩ := exists_row_of_mem_ownedFeatures hf
    exact ⟨r, hr, l, rfl, featureBlock_mem_withId hlisted hr⟩
  missing := by
    intro i hi
    obtain ⟨e, he, rfl⟩ := exists_of_mem_missingItems hi
    obtain ⟨r, hr, l, rfl⟩ := hmissing e he
    exact ⟨r, hr, l, rfl, featureBlock_mem_withId hlisted hr⟩
  records := by
    intro k hk
    obtain ⟨r, hr, scenario, l, hk⟩ := exists_of_mem_recordLinks hlisted hk
    obtain ⟨record, hrecord, rfl⟩ := hlinks r hr scenario l k hk
    exact ⟨record, hrecord, rfl, recordBlock_mem_withId hrecord⟩

/-- Each anchor that the tabs of a view link to is the id of a block of some tab. -/
theorem ViewResolves.exists_tab (h : ViewResolves o m v)
    (hcomplete : v.complete = true → v.missing = []) {a : String}
    (ha : a ∈ anchorsOf (body o.title v)) :
    ∃ t ∈ tabs v, withId a t.content ≠ [] := by
  have hbreakdown {e : Markup} (he : e ∈ withId a (breakdownTab v)) :
      ∃ t ∈ tabs v, withId a t.content ≠ [] := by
    obtain ⟨t, ht, hcontent⟩ := breakdownTab_mem_tabs
    exact ⟨t, ht, List.ne_nil_of_mem (hcontent ▸ he)⟩
  have hrecord : (∃ k ∈ v.recordLinks, k.anchor = a) →
      ∃ t ∈ tabs v, withId a t.content ≠ [] := by
    rintro ⟨k, hk, rfl⟩
    obtain ⟨record, -, -, t, ht, he⟩ := h.records k hk
    exact ⟨t.tab, recordTab_mem_tabs ht, List.ne_nil_of_mem he⟩
  simp only [anchorsOf_body hcomplete, List.mem_append, List.mem_flatMap, List.mem_cons,
    List.mem_map, or_assoc] at ha
  obtain ⟨row, hrow, rfl | ⟨k, hk, rfl⟩⟩ | ⟨f, hf, rfl⟩ | ⟨b, hb, k, hk, rfl⟩ | ⟨i, hi, rfl⟩ := ha
  · obtain ⟨r, -, -, he⟩ := h.overview row hrow
    exact hbreakdown he
  · exact hrecord ⟨k, List.mem_append_left _ (List.mem_flatMap.2 ⟨row, hrow, hk⟩), rfl⟩
  · obtain ⟨r, -, l, -, he⟩ := h.owned f hf
    exact hbreakdown he
  · exact hrecord ⟨k, List.mem_append_right _ (List.mem_flatMap.2 ⟨b, hb, hk⟩), rfl⟩
  · obtain ⟨r, -, l, -, he⟩ := h.missing i hi
    exact hbreakdown he

theorem missing_ofMatrix_of_complete {base? : Option String}
    (h : (View.ofMatrix base? m).complete = true) : (View.ofMatrix base? m).missing = [] := by
  have hnil : m.missing = [] := List.isEmpty_iff.1 h
  simp [View.ofMatrix, missingOf, hnil]

theorem linksResolve_of_view (h : ViewResolves o m (.ofMatrix o.linkBase? m)) :
    LinksResolve o m where
  resolves := by
    intro a ha
    rw [anchorsOf, hrefs_html] at ha
    split at ha
    · cases ha
    · rename_i hshown
      obtain ⟨t, ht, he⟩ := h.exists_tab missing_ofMatrix_of_complete ha
      obtain ⟨e, he⟩ := List.exists_mem_of_ne_nil _ he
      have hv : View.ofMatrix o.linkBase? m ∈ view? o m :=
        mem_view?_iff.2 ⟨Bool.eq_false_iff.2 hshown, rfl⟩
      exact List.ne_nil_of_mem (mem_withId_html hv ht he)
  view := by
    intro v hv
    refine ⟨html_of_view? hv, ?_⟩
    rw [eq_ofMatrix_of_view? hv]
    exact h

end

end Page

end SpecCoverage
