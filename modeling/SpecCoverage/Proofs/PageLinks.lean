-- SUMMARY: The links of a report page, part by part: to anchors of the page, or to source files.
import SpecCoverage.Page.Html

/-!
# Links of a page

The targets of links are the values of `href` throughout the tree of a page. Each part has an
equation for its own: links to features and records carry an anchor, and the others are those of the
view (`View.sources`).
-/
namespace SpecCoverage

open Markup

/-! ## Attributes throughout a tree -/

namespace Markup

variable {name : String}

@[simp] theorem attr_name (n s : String) : (attr n s).name = n := rfl

@[simp] theorem attr_value (n s : String) : (attr n s).value = .text s := rfl

@[simp] theorem attrVerbatim_name (n s : String) : (attrVerbatim n s).name = n := rfl

@[simp] theorem attrVerbatim_value (n s : String) : (attrVerbatim n s).value = .verbatim s := rfl

@[simp] theorem valuesOf_text {s : String} : valuesOf name (text s) = [] := by
  simp [text, valuesOf]

@[simp] theorem valuesOf_verbatim {s : String} : valuesOf name (verbatim s) = [] := by
  simp [verbatim, valuesOf]

@[simp] theorem valuesOf_newline : valuesOf name newline = [] :=
  valuesOf_verbatim

@[simp] theorem valuesOf_element {tag : String} {attributes : List Attribute}
    {children : List Markup} :
    valuesOf name (.element tag attributes children) =
      (attributes.filter (·.name == name)).map (·.value) ++ valuesOfAll name children := by
  simp [valuesOf]

@[simp] theorem valuesOf_void {tag : String} {attributes : List Attribute} :
    valuesOf name (.void tag attributes) =
      (attributes.filter (·.name == name)).map (·.value) := by
  simp [valuesOf]

@[simp] theorem valuesOfAll_nil : valuesOfAll name [] = [] := by
  simp [valuesOfAll]

@[simp] theorem valuesOfAll_cons {m : Markup} {ms : List Markup} :
    valuesOfAll name (m :: ms) = valuesOf name m ++ valuesOfAll name ms := by
  simp [valuesOfAll]

theorem valuesOfAll_eq_flatMap {ms : List Markup} :
    valuesOfAll name ms = ms.flatMap (valuesOf name) := by
  induction ms with
  | nil => simp
  | cons m ms ih => simp [ih]

@[simp] theorem valuesOfAll_append {ms ns : List Markup} :
    valuesOfAll name (ms ++ ns) = valuesOfAll name ms ++ valuesOfAll name ns := by
  simp only [valuesOfAll_eq_flatMap, List.flatMap_append]

@[simp] theorem valuesOfAll_flatMap {α : Type} {f : α → List Markup} {xs : List α} :
    valuesOfAll name (xs.flatMap f) = xs.flatMap fun x => valuesOfAll name (f x) := by
  simp only [valuesOfAll_eq_flatMap, List.flatMap_assoc]

@[simp] theorem valuesOfAll_map {α : Type} {f : α → Markup} {xs : List α} :
    valuesOfAll name (xs.map f) = xs.flatMap fun x => valuesOf name (f x) := by
  rw [valuesOfAll_eq_flatMap, List.flatMap_map]

/-- Text between elements has no attributes. -/
@[simp] theorem valuesOfAll_intersperse {s : String} {ms : List Markup} :
    valuesOfAll name (ms.intersperse (text s)) = valuesOfAll name ms := by
  induction ms with
  | nil => simp
  | cons m ms ih =>
    cases ms with
    | nil => simp
    | cons n ns => simpa using ih

end Markup

/-- A link to the part of the page that has the anchor. -/
def MarkupValue.toPart (anchor : String) : MarkupValue :=
  .verbatim ("#" ++ anchor)

/-- A link to a source file. -/
def Page.SourceLink.value (s : Page.SourceLink) : MarkupValue :=
  .text s.href

namespace Page

/-! ## Small elements -/

@[simp] theorem hrefs_plain {tag : String} {children : List Markup} :
    valuesOf "href" (plain tag children) = valuesOfAll "href" children := by
  simp [plain]

@[simp] theorem hrefs_classed {tag className : String} {children : List Markup} :
    valuesOf "href" (classed tag className children) = valuesOfAll "href" children := by
  simp [classed]

@[simp] theorem hrefs_heading {tag label : String} :
    valuesOfAll "href" (heading tag label) = [] := by
  simp [heading]

@[simp] theorem hrefs_paragraph {content : String} :
    valuesOfAll "href" (paragraph content) = [] := by
  simp [paragraph]

@[simp] theorem hrefs_dash {className : String} : valuesOf "href" (dash className) = [] := by
  simp [dash]

@[simp] theorem hrefs_axisHeaders {axis : List String} :
    valuesOfAll "href" (axisHeaders axis) = [] := by
  simp [axisHeaders]

@[simp] theorem hrefs_table {attributes : List Attribute} {headers rows : List Markup} :
    valuesOfAll "href" (table attributes headers rows) =
      (attributes.filter (·.name == "href")).map (·.value) ++ valuesOfAll "href" headers ++
        valuesOfAll "href" rows := by
  simp [table]

@[simp] theorem FeatureLink.hrefs_html {l : FeatureLink} :
    valuesOf "href" l.html = [.toPart l.anchor] := by
  simp [FeatureLink.html, MarkupValue.toPart]

@[simp] theorem hrefs_superscripts {links : List RecordLink} :
    valuesOfAll "href" (superscripts links) = links.map fun k => .toPart k.anchor := by
  unfold superscripts
  split
  · simp_all
  · simp [MarkupValue.toPart, List.map_eq_flatMap]

/-! ## Tabs -/

@[simp] theorem Mark.hrefs_html {k : Mark} : valuesOf "href" k.html = [] := by
  cases k <;> simp [Mark.html]

@[simp] theorem OverviewRow.hrefs_html {r : OverviewRow} :
    valuesOfAll "href" r.html =
      .toPart r.link.anchor :: r.cells.flatMap fun c => c.links.map fun k => .toPart k.anchor := by
  simp [OverviewRow.html]

@[simp] theorem OverviewFolder.hrefs_html {columns : Nat} {f : OverviewFolder} :
    valuesOfAll "href" (f.html columns) = f.rows.flatMap fun r => valuesOfAll "href" r.html := by
  simp [OverviewFolder.html]

@[simp] theorem SummaryCard.hrefs_html {c : SummaryCard} : valuesOfAll "href" c.html = [] := by
  simp [SummaryCard.html]

theorem hrefs_overviewTab {v : View} :
    valuesOfAll "href" (overviewTab v) =
      (v.overview.flatMap (·.rows)).flatMap fun r => valuesOfAll "href" r.html := by
  simp [overviewTab, overviewLegend, List.flatMap_assoc]

@[simp] theorem hrefs_scenarioItem {name : String} {tags : List String} :
    valuesOfAll "href" (scenarioItem name tags) = [] := by
  unfold scenarioItem
  split <;> simp

@[simp] theorem OwnedFeature.hrefs_html {f : OwnedFeature} :
    valuesOfAll "href" f.html = [.toPart f.link.anchor] := by
  simp [OwnedFeature.html]

theorem hrefs_ownedTab {v : View} :
    valuesOfAll "href" (ownedTab v) =
      (v.owned.flatMap (·.features)).map fun f => .toPart f.link.anchor := by
  unfold ownedTab
  split
  · simp_all
  · simp [OwnerSection.html, List.map_eq_flatMap, List.flatMap_assoc]

@[simp] theorem hrefs_locationCell {source? : Option SourceLink} :
    valuesOf "href" (locationCell source?) = source?.toList.map (·.value) := by
  cases source? <;> simp [locationCell, SourceLink.value]

/-- The places that a row of a record links to. -/
def RecordTest.sources (t : RecordTest) : List SourceLink :=
  t.test :: (t.newBehavior?.toList ++ t.oldBehavior?.toList)

@[simp] theorem RecordTest.hrefs_html {t : RecordTest} :
    valuesOfAll "href" t.html = t.sources.map (·.value) := by
  simp [RecordTest.html, RecordTest.sources, SourceLink.value]

def RecordBlock.sources (b : RecordBlock) : List SourceLink :=
  b.tests.flatMap (·.sources)

@[simp] theorem RecordBlock.hrefs_html {b : RecordBlock} :
    valuesOfAll "href" b.html = b.sources.map (·.value) := by
  unfold RecordBlock.html
  split
  · simp_all [RecordBlock.sources]
  · simp [RecordBlock.sources, List.map_flatMap]

theorem RecordTab.hrefs_html {t : RecordTab} :
    valuesOfAll "href" t.html = (t.blocks.flatMap (·.sources)).map (·.value) := by
  unfold RecordTab.html
  split
  · simp_all
  · simp [List.map_flatMap]

/-- The test that a cell links to. -/
def BreakdownCell.source? : BreakdownCell → Option SourceLink
  | .result _ source? _ => source?
  | _ => none

/-- The records that a cell links to. -/
def BreakdownCell.links : BreakdownCell → List RecordLink
  | .result _ _ links => links
  | _ => []

@[simp] theorem BreakdownCell.hrefs_html {c : BreakdownCell} :
    valuesOfAll "href" c.html =
      c.source?.toList.map (·.value) ++ c.links.map fun k => .toPart k.anchor := by
  cases c with
  | notNeeded => simp [BreakdownCell.html, source?, links]
  | todo => simp [BreakdownCell.html, source?, links]
  | noResult => simp [BreakdownCell.html, source?, links]
  | result passed source? links =>
    cases source? <;> simp [BreakdownCell.html, BreakdownCell.source?, BreakdownCell.links,
      SourceLink.value]

@[simp] theorem BreakdownRow.hrefs_html {r : BreakdownRow} :
    valuesOfAll "href" r.html = r.cells.flatMap fun c => valuesOfAll "href" c.html := by
  simp [BreakdownRow.html]

@[simp] theorem BreakdownBlock.hrefs_html {axis : List String} {b : BreakdownBlock} :
    valuesOfAll "href" (b.html axis) =
      (b.rows.flatMap (·.cells)).flatMap fun c => valuesOfAll "href" c.html := by
  unfold BreakdownBlock.html
  split
  · simp_all
  · simp [List.flatMap_assoc]

theorem hrefs_breakdownTab {v : View} :
    valuesOfAll "href" (breakdownTab v) =
      (v.breakdown.flatMap (·.blocks)).flatMap fun b =>
        (b.rows.flatMap (·.cells)).flatMap fun c => valuesOfAll "href" c.html := by
  simp [breakdownTab, breakdownLegend, BreakdownFolder.html, List.flatMap_assoc]

@[simp] theorem MissingItem.hrefs_html {i : MissingItem} :
    valuesOfAll "href" i.html = [.toPart i.link.anchor] := by
  simp [MissingItem.html]

theorem hrefs_missingTab {v : View} :
    valuesOfAll "href" (missingTab v) =
      if v.complete then []
      else (v.missing.flatMap (·.items)).map fun i => .toPart i.link.anchor := by
  unfold missingTab
  split
  · simp
  · simp [MissingSection.html, List.map_eq_flatMap, List.flatMap_assoc]

/-! ## The document -/

/-- The button of a tab links nowhere. -/
@[simp] theorem Tab.hrefs_button {t : Tab} {index : Nat} :
    valuesOfAll "href" (t.button index) = [] := by
  simp [Tab.button]

@[simp] theorem Tab.hrefs_panel {t : Tab} {index : Nat} :
    valuesOfAll "href" (t.panel index) = valuesOfAll "href" t.content := by
  simp [Tab.panel]

/-- Elements that are numbered without need. -/
theorem flatMap_zipIdx {α β : Type} (f : α → List β) (xs : List α) :
    (xs.zipIdx.flatMap fun x => f x.1) = xs.flatMap f := by
  rw [← List.flatMap_map Prod.fst f, List.zipIdx_map_fst]

theorem hrefs_body {title : String} {v : View} :
    valuesOfAll "href" (body title v) =
      valuesOfAll "href" (overviewTab v) ++ valuesOfAll "href" (ownedTab v) ++
        v.records.flatMap (fun t => valuesOfAll "href" t.html) ++
        valuesOfAll "href" (breakdownTab v) ++ valuesOfAll "href" (missingTab v) := by
  have hpanels : ((tabs v).zipIdx.flatMap fun t => valuesOfAll "href" t.1.content) =
      (tabs v).flatMap fun t => valuesOfAll "href" t.content :=
    flatMap_zipIdx (fun t => valuesOfAll "href" t.content) (tabs v)
  have hbody : valuesOfAll "href" (body title v) =
      (tabs v).flatMap fun t => valuesOfAll "href" t.content := by
    simp [body, hpanels, List.flatMap_eq_nil_iff]
  simp [hbody, tabs, RecordTab.tab, List.flatMap_map]

theorem hrefs_document {title : String} {content : List Markup} :
    valuesOfAll "href" (document title content) = valuesOfAll "href" content := by
  simp [document]

/-- A page without rows or languages links nowhere. -/
theorem hrefs_html {o : Options} {m : Matrix} :
    valuesOfAll "href" (html o m) =
      if m.isEmpty then []
      else valuesOfAll "href" (body o.title (.ofMatrix o.linkBase? m)) := by
  rw [html, hrefs_document]
  split <;> simp

/-! ## Two kinds of links -/

/-- The places in source files that a view links to. -/
def View.sources (v : View) : List SourceLink :=
  (v.records.flatMap (·.blocks)).flatMap (·.sources) ++
    (v.breakdown.flatMap (·.blocks)).flatMap fun b =>
      (b.rows.flatMap (·.cells)).filterMap (·.source?)

/-- A link of a page leads to an anchor, or to one of the places that the view has. -/
theorem mem_hrefs_body {title : String} {v : View} {x : MarkupValue}
    (hx : x ∈ valuesOfAll "href" (body title v)) :
    (∃ anchor, x = .toPart anchor) ∨ ∃ s ∈ v.sources, x = s.value := by
  simp only [hrefs_body, List.mem_append, or_assoc] at hx
  obtain hx | hx | hx | hx | hx := hx
  · simp only [hrefs_overviewTab, OverviewRow.hrefs_html, List.mem_flatMap, List.mem_cons,
      List.mem_map] at hx
    obtain ⟨r, -, rfl | ⟨c, -, k, -, rfl⟩⟩ := hx
    · exact .inl ⟨_, rfl⟩
    · exact .inl ⟨_, rfl⟩
  · rw [hrefs_ownedTab, List.mem_map] at hx
    obtain ⟨f, -, rfl⟩ := hx
    exact .inl ⟨_, rfl⟩
  · simp only [RecordTab.hrefs_html, List.mem_flatMap, List.mem_map] at hx
    obtain ⟨t, ht, s, ⟨b, hb, hs⟩, rfl⟩ := hx
    refine .inr ⟨s, List.mem_append_left _ ?_, rfl⟩
    exact List.mem_flatMap.2 ⟨b, List.mem_flatMap.2 ⟨t, ht, hb⟩, hs⟩
  · rw [hrefs_breakdownTab] at hx
    obtain ⟨b, hb, hx⟩ := List.mem_flatMap.1 hx
    obtain ⟨c, hc, hx⟩ := List.mem_flatMap.1 hx
    rw [BreakdownCell.hrefs_html] at hx
    obtain hx | hx := List.mem_append.1 hx
    · obtain ⟨s, hs, rfl⟩ := List.mem_map.1 hx
      refine .inr ⟨s, List.mem_append_right _ ?_, rfl⟩
      exact List.mem_flatMap.2 ⟨b, hb, List.mem_filterMap.2 ⟨c, hc, Option.mem_toList.1 hs⟩⟩
    · obtain ⟨k, -, rfl⟩ := List.mem_map.1 hx
      exact .inl ⟨_, rfl⟩
  · rw [hrefs_missingTab] at hx
    split at hx
    · cases hx
    · obtain ⟨i, -, rfl⟩ := List.mem_map.1 hx
      exact .inl ⟨_, rfl⟩

end Page

end SpecCoverage
