-- SUMMARY: Report pages consist of their own literals and inert text, whatever the matrix holds.
import Mathlib.Data.List.Basic
import SpecCoverage.Page.Html
import SpecCoverage.Proofs.Fragments
import SpecCoverage.Proofs.PageRows
import SpecCoverage.Proofs.RecordLinks

/-!
# Report pages without injected markup

A page shows titles, paths, names, tags, identifiers and descriptions that anybody may have written.
Texts and most attributes are escaped; the anchors of features and records are written as they are
and rely on how they are made. Part by part, the tree of a page keeps to the page's vocabulary, and
so the page is written from literals of the vocabulary and inert text.
-/
namespace SpecCoverage

open Markup

-- ---------------------------------------------------------------------------
-- Anchors
-- ---------------------------------------------------------------------------

namespace Text

/-- A letter or digit in lower case is neither a delimiter nor an ampersand. -/
theorem lowerChar_plain {c : Char} (h : isAsciiAlphanumeric c = true) :
    lowerChar c ∉ '&' :: delimiters := by
  have hall : ∀ n < 128, isAsciiAlphanumeric (Char.ofNat n) = true →
      lowerChar (Char.ofNat n) ∉ '&' :: delimiters := by decide +kernel
  exact forall_ascii (p := fun c => isAsciiAlphanumeric c = true → lowerChar c ∉ '&' :: delimiters)
    hall (toNat_lt_of_isAsciiAlphanumeric h) h

/-- What anchors are made of: letters and digits in lower case, and hyphens for the rest. -/
theorem inert_slug (s : List Char) :
    Inert (s.map fun c => if isAsciiAlphanumeric c then lowerChar c else '-') := by
  refine .of_plain fun d hd => ?_
  obtain ⟨c, -, rfl⟩ := List.mem_map.1 hd
  split
  · exact lowerChar_plain ‹_›
  · decide

end Text

theorem RecordKind.inert_slug (k : RecordKind) : Inert k.slug.toList := by
  cases k <;> exact .of_all (by decide)

theorem inert_anchorFor (k : RecordKind) (id : String) : Inert (anchorFor k id).toList := by
  simp only [anchorFor, String.toList_append, String.toList_ofList]
  exact (k.inert_slug.append (.of_all (by decide))).append (Text.inert_slug _)

theorem Link.inert_featureAnchor (path : String) : Inert (featureAnchor path).toList := by
  simp only [featureAnchor, String.toList_append, String.toList_ofList]
  exact Inert.append (.of_all (by decide)) (Text.inert_slug _)

/-- What a link inside the page leads to. -/
theorem inert_pageLink {anchor : String} (h : Inert anchor.toList) :
    Inert ('#' :: anchor.toList) :=
  Inert.append (s := ['#']) (.of_all (by decide)) h

namespace Page

-- ---------------------------------------------------------------------------
-- Vocabulary
-- ---------------------------------------------------------------------------

def tagNames : List String :=
  ["html", "head", "meta", "title", "style", "body", "script", "h1", "h2", "h3", "p", "a", "sup",
    "span", "code", "table", "thead", "tbody", "tr", "th", "td", "div", "button", "details",
    "summary", "ul", "li", "footer"]

def attributeNames : List String :=
  ["lang", "charset", "name", "content", "class", "id", "href", "title", "colspan", "data-tab"]

/-- What a page has between its tags besides texts. -/
def verbatimContents : List String :=
  ["\n", "<!DOCTYPE html>\n", "\n" ++ style, "\n" ++ script]

/-- The names and verbatim contents of report pages. -/
def vocabulary : Vocabulary where
  tags := tagNames
  attributes := attributeNames
  contents := verbatimContents

@[simp] theorem vocabulary_tags : vocabulary.tags = tagNames := rfl

@[simp] theorem vocabulary_attributes : vocabulary.attributes = attributeNames := rfl

@[simp] theorem vocabulary_contents : vocabulary.contents = verbatimContents := rfl

@[simp] theorem harmless_newline : Harmless vocabulary newline := by
  simp [newline, verbatimContents]

-- ---------------------------------------------------------------------------
-- Small elements
-- ---------------------------------------------------------------------------

@[simp] theorem harmless_plain {tag : String} {children : List Markup} :
    Harmless vocabulary (plain tag children) ↔
      tag ∈ tagNames ∧ HarmlessAll vocabulary children := by
  simp [plain]

@[simp] theorem harmless_classed {tag className : String} {children : List Markup} :
    Harmless vocabulary (classed tag className children) ↔
      tag ∈ tagNames ∧ HarmlessAll vocabulary children := by
  simp [classed, attributeNames]

@[simp] theorem harmless_heading {tag label : String} :
    HarmlessAll vocabulary (heading tag label) ↔ tag ∈ tagNames := by
  simp [heading]

@[simp] theorem harmless_paragraph {content : String} :
    HarmlessAll vocabulary (paragraph content) := by
  simp [paragraph, tagNames]

@[simp] theorem harmless_dash {className : String} : Harmless vocabulary (dash className) := by
  simp [dash, tagNames]

@[simp] theorem harmless_axisHeaders {axis : List String} :
    HarmlessAll vocabulary (axisHeaders axis) := by
  simp [axisHeaders, tagNames]

@[simp] theorem harmless_table {attributes : List Attribute} {headers rows : List Markup} :
    HarmlessAll vocabulary (table attributes headers rows) ↔
      (∀ a ∈ attributes, a.Harmless vocabulary) ∧ HarmlessAll vocabulary headers ∧
        HarmlessAll vocabulary rows := by
  simp [table, tagNames]

theorem FeatureLink.harmless_html {l : FeatureLink} (h : Inert l.anchor.toList) :
    Harmless vocabulary l.html := by
  simp [FeatureLink.html, tagNames, attributeNames, inert_pageLink h]

/-- Elements between which something else is put. -/
theorem mem_of_mem_intersperse {α : Type} {sep x : α} {xs : List α}
    (h : x ∈ xs.intersperse sep) : x = sep ∨ x ∈ xs := by
  induction xs with
  | nil => simp at h
  | cons y ys ih =>
    cases ys with
    | nil => exact .inr (by simpa using h)
    | cons z zs =>
      simp only [List.intersperse_cons_cons, List.mem_cons] at h ih ⊢
      obtain rfl | rfl | h := h
      · exact .inr (.inl rfl)
      · exact .inl rfl
      · exact (ih h).imp_right .inr

theorem harmless_superscripts {links : List RecordLink}
    (h : ∀ k ∈ links, Inert k.anchor.toList) : HarmlessAll vocabulary (superscripts links) := by
  unfold superscripts
  split
  · exact harmlessAll_nil
  · simp only [harmlessAll_cons, harmless_classed, harmlessAll_nil, and_true]
    refine ⟨by simp [tagNames], harmlessAll_iff.2 fun m hm => ?_⟩
    obtain rfl | hm := mem_of_mem_intersperse hm
    · exact harmless_text
    · obtain ⟨k, hk, rfl⟩ := List.mem_map.1 hm
      simp [tagNames, attributeNames, inert_pageLink (h k hk)]

-- ---------------------------------------------------------------------------
-- Tabs
-- ---------------------------------------------------------------------------

theorem Mark.harmless_html (k : Mark) : Harmless vocabulary k.html := by
  cases k <;> simp [Mark.html, tagNames]

theorem OverviewRow.harmless_html {r : OverviewRow} (hlink : Inert r.link.anchor.toList)
    (hcells : ∀ c ∈ r.cells, ∀ k ∈ c.links, Inert k.anchor.toList) :
    HarmlessAll vocabulary r.html := by
  have hlinks : ∀ c ∈ r.cells, HarmlessAll vocabulary (superscripts c.links) :=
    fun c hc => harmless_superscripts (hcells c hc)
  simpa [OverviewRow.html, tagNames, FeatureLink.harmless_html hlink, Mark.harmless_html]
    using hlinks

theorem OverviewFolder.harmless_html {columns : Nat} {f : OverviewFolder}
    (h : ∀ r ∈ f.rows, HarmlessAll vocabulary r.html) :
    HarmlessAll vocabulary (f.html columns) := by
  simpa [OverviewFolder.html, tagNames, attributeNames] using h

theorem SummaryCard.harmless_html (c : SummaryCard) : HarmlessAll vocabulary c.html := by
  simp [SummaryCard.html, tagNames]

theorem harmless_overviewTab {v : View}
    (h : ∀ f ∈ v.overview, ∀ r ∈ f.rows, HarmlessAll vocabulary r.html) :
    HarmlessAll vocabulary (overviewTab v) := by
  have hfolders : ∀ f ∈ v.overview, HarmlessAll vocabulary (f.html (v.axis.length + 1)) :=
    fun f hf => OverviewFolder.harmless_html (h f hf)
  simpa [overviewTab, overviewLegend, tagNames, attributeNames, SummaryCard.harmless_html]
    using hfolders

theorem harmless_scenarioItem (name : String) (tags : List String) :
    HarmlessAll vocabulary (scenarioItem name tags) := by
  unfold scenarioItem
  split <;> simp [tagNames]

theorem OwnedFeature.harmless_html {f : OwnedFeature} (h : Inert f.link.anchor.toList) :
    HarmlessAll vocabulary f.html := by
  simp [OwnedFeature.html, tagNames, FeatureLink.harmless_html h, harmless_scenarioItem]

theorem harmless_ownedTab {v : View}
    (h : ∀ s ∈ v.owned, ∀ f ∈ s.features, Inert f.link.anchor.toList) :
    HarmlessAll vocabulary (ownedTab v) := by
  have hsections : ∀ s ∈ v.owned, HarmlessAll vocabulary s.html := by
    intro s hs
    have hfeatures : ∀ f ∈ s.features, HarmlessAll vocabulary f.html :=
      fun f hf => OwnedFeature.harmless_html (h s hs f hf)
    simpa [OwnerSection.html, tagNames] using hfeatures
  unfold ownedTab
  split
  · simp [tagNames]
  · simpa [tagNames] using hsections

theorem harmless_locationCell (location? : Option SourceLink) :
    Harmless vocabulary (locationCell location?) := by
  cases location? <;> simp [locationCell, tagNames, attributeNames]

theorem RecordTest.harmless_html (t : RecordTest) : HarmlessAll vocabulary t.html := by
  simp [RecordTest.html, tagNames, attributeNames, harmless_locationCell]

theorem RecordBlock.harmless_html {b : RecordBlock} (h : Inert b.anchor.toList) :
    HarmlessAll vocabulary b.html := by
  unfold RecordBlock.html
  split <;> simp [tagNames, attributeNames, h, RecordTest.harmless_html]

theorem RecordTab.harmless_html {t : RecordTab} (h : ∀ b ∈ t.blocks, Inert b.anchor.toList) :
    HarmlessAll vocabulary t.html := by
  have hblocks : ∀ b ∈ t.blocks, HarmlessAll vocabulary b.html :=
    fun b hb => RecordBlock.harmless_html (h b hb)
  unfold RecordTab.html
  split
  · simp [tagNames]
  · simpa [tagNames] using hblocks

theorem BreakdownCell.harmless_html {c : BreakdownCell}
    (h : ∀ passed source? links, c = .result passed source? links →
      ∀ k ∈ links, Inert k.anchor.toList) : HarmlessAll vocabulary c.html := by
  cases c with
  | notNeeded => simp [BreakdownCell.html, tagNames, attributeNames]
  | todo => simp [BreakdownCell.html, tagNames]
  | noResult => simp [BreakdownCell.html, tagNames]
  | result passed source? links =>
    have hlinks := harmless_superscripts (h passed source? links rfl)
    cases source? <;> simp [BreakdownCell.html, tagNames, attributeNames, hlinks]

theorem BreakdownRow.harmless_html {r : BreakdownRow}
    (h : ∀ c ∈ r.cells, HarmlessAll vocabulary c.html) : HarmlessAll vocabulary r.html := by
  simpa [BreakdownRow.html, tagNames] using h

theorem BreakdownBlock.harmless_html {axis : List String} {b : BreakdownBlock}
    (hlink : Inert b.link.anchor.toList) (hrows : ∀ r ∈ b.rows, HarmlessAll vocabulary r.html) :
    HarmlessAll vocabulary (b.html axis) := by
  unfold BreakdownBlock.html
  split
  · simp [tagNames, attributeNames, hlink]
  · simpa [tagNames, attributeNames, hlink] using hrows

theorem harmless_breakdownTab {v : View}
    (h : ∀ f ∈ v.breakdown, ∀ b ∈ f.blocks, HarmlessAll vocabulary (b.html v.axis)) :
    HarmlessAll vocabulary (breakdownTab v) := by
  simpa [breakdownTab, breakdownLegend, BreakdownFolder.html, tagNames] using h

theorem MissingItem.harmless_html {i : MissingItem} (h : Inert i.link.anchor.toList) :
    HarmlessAll vocabulary i.html := by
  simp [MissingItem.html, tagNames, FeatureLink.harmless_html h]

theorem harmless_missingTab {v : View}
    (h : ∀ s ∈ v.missing, ∀ i ∈ s.items, Inert i.link.anchor.toList) :
    HarmlessAll vocabulary (missingTab v) := by
  have hsections : ∀ s ∈ v.missing, HarmlessAll vocabulary s.html := by
    intro s hs
    have hitems : ∀ i ∈ s.items, HarmlessAll vocabulary i.html :=
      fun i hi => MissingItem.harmless_html (h s hs i hi)
    simpa [MissingSection.html, tagNames] using hitems
  unfold missingTab
  split
  · simp [tagNames]
  · simpa [tagNames] using hsections

-- ---------------------------------------------------------------------------
-- The document
-- ---------------------------------------------------------------------------

theorem Tab.harmless_button (t : Tab) (index : Nat) :
    HarmlessAll vocabulary (t.button index) := by
  simp [Tab.button, tagNames, attributeNames]

theorem Tab.harmless_panel {t : Tab} (h : HarmlessAll vocabulary t.content) (index : Nat) :
    HarmlessAll vocabulary (t.panel index) := by
  simp [Tab.panel, tagNames, attributeNames, h]

theorem harmless_body {title : String} {v : View}
    (h : ∀ t ∈ tabs v, HarmlessAll vocabulary t.content) : HarmlessAll vocabulary (body title v) := by
  have hpanels : ∀ t i, (t, i) ∈ (tabs v).zipIdx → HarmlessAll vocabulary (t.panel i) :=
    fun t i ht => Tab.harmless_panel (h t (List.fst_mem_of_mem_zipIdx ht)) i
  simpa [body, tagNames, Tab.harmless_button] using hpanels

theorem harmless_document {title : String} {content : List Markup}
    (h : HarmlessAll vocabulary content) : HarmlessAll vocabulary (document title content) := by
  simp [document, tagNames, attributeNames, verbatimContents, h]

/-- The cells of a row with links whose anchors are made for them. -/
theorem harmless_breakdownCell {base? : Option String} {r : Row} {s : Scenario} {l : Language}
    (h : ∀ k ∈ r.linksOf s.name l, Inert k.anchor.toList) :
    HarmlessAll vocabulary (BreakdownCell.ofRow base? r s l).html := by
  refine BreakdownCell.harmless_html fun passed source? links heq => ?_
  obtain ⟨_, -, -, rfl⟩ := BreakdownCell.of_ofRow_eq_result heq
  exact h

section

variable {base? : Option String} {m : Matrix}

theorem inert_of_anchorsMade (h : m.AnchorsMade) {r : Row} (hr : r ∈ m.rows) {scenario : String}
    {l : Language} : ∀ k ∈ r.linksOf scenario l, Inert k.anchor.toList :=
  fun k hk => h r hr scenario l k hk ▸ inert_anchorFor k.kind k.id

theorem harmless_overviewOf (h : m.AnchorsMade) :
    ∀ f ∈ overviewOf m, ∀ r ∈ f.rows, HarmlessAll vocabulary r.html := by
  intro f hf row hrow
  have hmem : row ∈ (overviewOf m).flatMap (·.rows) := List.mem_flatMap.2 ⟨f, hf, hrow⟩
  rw [flatMap_overviewOf] at hmem
  obtain ⟨r, hr, rfl⟩ := List.mem_map.1 hmem
  have hr : r ∈ m.rows := Matrix.mem_rows_of_mem_listedRows (List.mem_of_mem_filter hr)
  refine OverviewRow.harmless_html (Link.inert_featureAnchor _) fun c hc k hk => ?_
  obtain ⟨l, -, rfl⟩ := List.mem_map.1 hc
  obtain ⟨s, -, hk⟩ := List.mem_flatMap.1 (SortedSet.mem_ofList.1 hk)
  exact inert_of_anchorsMade h hr k hk

theorem harmless_breakdownOf (h : m.AnchorsMade) {axis : List String} :
    ∀ f ∈ breakdownOf base? m, ∀ b ∈ f.blocks, HarmlessAll vocabulary (b.html axis) := by
  intro f hf b hb
  have hmem : b ∈ (breakdownOf base? m).flatMap (·.blocks) := List.mem_flatMap.2 ⟨f, hf, hb⟩
  rw [flatMap_breakdownOf] at hmem
  obtain ⟨r, hr, rfl⟩ := List.mem_map.1 hmem
  have hr : r ∈ m.rows := Matrix.mem_rows_of_mem_listedRows hr
  refine BreakdownBlock.harmless_html (Link.inert_featureAnchor _) fun row hrow => ?_
  obtain ⟨s, -, rfl⟩ := List.mem_map.1 hrow
  refine BreakdownRow.harmless_html fun c hc => ?_
  obtain ⟨l, -, rfl⟩ := List.mem_map.1 hc
  exact harmless_breakdownCell (inert_of_anchorsMade h hr)

theorem inert_ownedOf : ∀ s ∈ ownedOf m, ∀ f ∈ s.features, Inert f.link.anchor.toList := by
  intro s hs f hf
  obtain ⟨l, -, rfl⟩ := List.mem_map.1 hs
  obtain ⟨r, -, rfl⟩ := List.mem_map.1 hf
  exact Link.inert_featureAnchor _

theorem inert_missingOf : ∀ s ∈ missingOf m, ∀ i ∈ s.items, Inert i.link.anchor.toList := by
  intro s hs i hi
  obtain ⟨l, -, hs⟩ := List.mem_filterMap.1 hs
  split at hs
  · cases hs
  · cases hs
    obtain ⟨p, -, rfl⟩ := List.mem_map.1 hi
    exact Link.inert_featureAnchor _

theorem harmless_recordTab (k : RecordKind) (n : Nat) (records : List CrossRecord) :
    HarmlessAll vocabulary (RecordTab.mk k n (records.map (.ofRecord base?))).html := by
  refine RecordTab.harmless_html fun b hb => ?_
  obtain ⟨r, -, rfl⟩ := List.mem_map.1 hb
  exact inert_anchorFor r.kind r.id

theorem harmless_tabs (h : m.AnchorsMade) :
    ∀ t ∈ tabs (.ofMatrix base? m), HarmlessAll vocabulary t.content := by
  simp only [tabs, List.forall_mem_append, List.forall_mem_cons, List.forall_mem_map]
  refine ⟨⟨⟨?_, ?_, by simp⟩, ?_⟩, ?_, ?_, by simp⟩
  · exact harmless_overviewTab (harmless_overviewOf h)
  · exact harmless_ownedTab inert_ownedOf
  · intro t ht
    obtain ⟨k, -, rfl⟩ := List.mem_map.1 ht
    exact harmless_recordTab k _ _
  · exact harmless_breakdownTab (harmless_breakdownOf h)
  · exact harmless_missingTab inert_missingOf

theorem harmless_html {o : Options} (h : m.AnchorsMade) : HarmlessAll vocabulary (html o m) := by
  refine harmless_document ?_
  split
  · simp [tagNames]
  · exact harmless_body (harmless_tabs h)

end

/-- The page is its fragments one after the other: literals of the page, and text that neither opens
markup nor closes an attribute. -/
structure InjectionFree (o : Options) (m : Matrix) : Prop where
  concatenated : render o m = textOf (fragmentsOfAll (html o m))
  literal : ∀ s, .own s ∈ fragmentsOfAll (html o m) → s ∈ vocabulary.literals
  inert : ∀ s, .inserted s ∈ fragmentsOfAll (html o m) → Inert s.toList

/-- No text of the options or of a matrix gets into the markup of a page, as long as links carry the
anchors that are made for them; built matrices are of this kind. -/
theorem render_injectionFree (o : Options) :
    (∀ m : Matrix, m.AnchorsMade → InjectionFree o m) ∧
      ∀ (c : Catalog) (d : Disk) (features : List Feature) (verdicts : List FeatureVerdict)
        (crossReferences : CrossReferences),
        (c.matrix d features verdicts crossReferences).1.AnchorsMade := by
  refine ⟨fun m h => ?_, fun c d features verdicts crossReferences => Matrix.build_anchorsMade⟩
  have hfragments := harmless_fragmentsOfAll (html o m) (harmless_html h)
  exact {
    concatenated := write_eq_textOf (html o m)
    literal := fun s hs => hfragments (.own s) hs
    inert := fun s hs => hfragments (.inserted s) hs }

/-- A row with markup wherever a text can stand. -/
def hostileRow : Row where
  feature :=
    { path := "<a>/'b'.feature", title := "</title><script>", tags := [], folder := "\"><i>"
      scope := .shared, scenarios := [⟨"a & b", ["@<b>"], ∅, ∅, ∅⟩] }
  languages := .ofList
    [(⟨"<u>"⟩, some ⟨⟨"<u>"⟩, true, some "\" onclick='x", .ofList [("a & b", .pass)], ∅⟩)]
  links := .ofList [("a & b", .ofList
    [(⟨"<u>"⟩, [⟨.breakingChange, "BC#\"1\"", anchorFor .breakingChange "BC#\"1\""⟩])])]

def hostile : Matrix := ⟨[⟨"<u>"⟩], [hostileRow], [], [], ∅⟩

theorem hostile_anchorsMade : hostile.AnchorsMade := by
  intro r hr scenario l k hk
  obtain rfl := List.mem_singleton.1 hr
  obtain ⟨byLanguage, ks, hscenario, hlanguage, hk⟩ := Row.exists_of_mem_linksOf hk
  obtain ⟨rfl, rfl⟩ := Prod.mk.inj (List.mem_singleton.1 (SortedMap.mem_of_get?_ofList hscenario))
  obtain ⟨rfl, rfl⟩ := Prod.mk.inj (List.mem_singleton.1 (SortedMap.mem_of_get?_ofList hlanguage))
  obtain rfl := List.mem_singleton.1 hk
  rfl

theorem render_injectionFree_hostile :
    hostile.AnchorsMade ∧ hostileRow.linksOf "a & b" ⟨"<u>"⟩ ≠ [] ∧
      InjectionFree ⟨"'</title>&lt", some "\">"⟩ hostile :=
  ⟨hostile_anchorsMade, by decide, (render_injectionFree _).1 _ hostile_anchorsMade⟩

end Page

end SpecCoverage
