-- SUMMARY: The blocks of a report page: its panels, what can be opened in them, and the ids of both.
import SpecCoverage.Proofs.PageLinks
import SpecCoverage.Proofs.PageRows

/-!
# Blocks of a page

A block is an element that can be opened or that a link can lead to. Each part of a page has an
equation for its blocks: a tab shows one for each feature or record that it lists, and the page has
the panels of its tabs around them.
-/
namespace SpecCoverage

namespace Markup

/-! ## Elements of a tree -/

mutual

/-- The elements of a tree that a condition on tag and attributes holds of, in order. An element
stands before those inside it. -/
def elements (p : String → List Attribute → Bool) : Markup → List Markup
  | .value _ => []
  | .element tag attributes children =>
    (if p tag attributes then [.element tag attributes children] else []) ++
      elementsOfAll p children
  | .void tag attributes => if p tag attributes then [.void tag attributes] else []

def elementsOfAll (p : String → List Attribute → Bool) : List Markup → List Markup
  | [] => []
  | m :: ms => elements p m ++ elementsOfAll p ms

end

variable {p : String → List Attribute → Bool}

@[simp] theorem elements_text {s : String} : elements p (text s) = [] := by
  simp [text, elements]

@[simp] theorem elements_verbatim {s : String} : elements p (verbatim s) = [] := by
  simp [verbatim, elements]

@[simp] theorem elements_newline : elements p newline = [] :=
  elements_verbatim

@[simp] theorem elements_element {tag : String} {attributes : List Attribute}
    {children : List Markup} :
    elements p (.element tag attributes children) =
      (if p tag attributes then [.element tag attributes children] else []) ++
        elementsOfAll p children := by
  simp [elements]

@[simp] theorem elements_void {tag : String} {attributes : List Attribute} :
    elements p (.void tag attributes) =
      if p tag attributes then [.void tag attributes] else [] := by
  simp [elements]

@[simp] theorem elementsOfAll_nil : elementsOfAll p [] = [] := by
  simp [elementsOfAll]

@[simp] theorem elementsOfAll_cons {m : Markup} {ms : List Markup} :
    elementsOfAll p (m :: ms) = elements p m ++ elementsOfAll p ms := by
  simp [elementsOfAll]

theorem elementsOfAll_eq_flatMap {ms : List Markup} :
    elementsOfAll p ms = ms.flatMap (elements p) := by
  induction ms with
  | nil => simp
  | cons m ms ih => simp [ih]

@[simp] theorem elementsOfAll_append {ms ns : List Markup} :
    elementsOfAll p (ms ++ ns) = elementsOfAll p ms ++ elementsOfAll p ns := by
  simp only [elementsOfAll_eq_flatMap, List.flatMap_append]

@[simp] theorem elementsOfAll_flatMap {α : Type} {f : α → List Markup} {xs : List α} :
    elementsOfAll p (xs.flatMap f) = xs.flatMap fun x => elementsOfAll p (f x) := by
  simp only [elementsOfAll_eq_flatMap, List.flatMap_assoc]

@[simp] theorem elementsOfAll_map {α : Type} {f : α → Markup} {xs : List α} :
    elementsOfAll p (xs.map f) = xs.flatMap fun x => elements p (f x) := by
  rw [elementsOfAll_eq_flatMap, List.flatMap_map]

/-- Text between trees has no elements. -/
@[simp] theorem elementsOfAll_intersperse {s : String} {ms : List Markup} :
    elementsOfAll p (ms.intersperse (text s)) = elementsOfAll p ms := by
  induction ms with
  | nil => simp
  | cons m ms ih =>
    cases ms with
    | nil => simp
    | cons n ns => simpa using ih

/-! ## Blocks and ids -/

/-- Can an element be opened, or can a link lead to it? -/
def isBlock (tag : String) (attributes : List Attribute) : Bool :=
  tag == "details" || attributes.any (·.name == "id")

/-- The blocks of trees, in order. -/
abbrev blocksOf (ms : List Markup) : List Markup :=
  elementsOfAll isBlock ms

/-- The id of an element as it is written. -/
def id? : Markup → Option String
  | .value _ => none
  | .element _ attributes _ | .void _ attributes =>
    (attributes.find? (·.name == "id")).map (·.value.written)

/-- The ids of all elements of trees, as they are written and in order. -/
def idsOf (ms : List Markup) : List String :=
  (blocksOf ms).filterMap id?

/-- The elements that a link to an id can lead to. -/
def withId (id : String) (ms : List Markup) : List Markup :=
  (blocksOf ms).filter (·.id? = some id)

end Markup

open Markup

namespace Page

/-! ## Small elements -/

variable {p : String → List Attribute → Bool}

theorem elements_plain {tag : String} {children : List Markup} :
    elements p (plain tag children) =
      (if p tag [] then [plain tag children] else []) ++ elementsOfAll p children := by
  simp [plain]

theorem elements_classed {tag className : String} {children : List Markup} :
    elements p (classed tag className children) =
      (if p tag [attr "class" className] then [classed tag className children] else []) ++
        elementsOfAll p children := by
  simp [classed]

@[simp] theorem blocks_plain {tag : String} {children : List Markup} (h : tag ≠ "details") :
    elements isBlock (plain tag children) = blocksOf children := by
  simp [elements_plain, isBlock, h]

@[simp] theorem blocks_classed {tag className : String} {children : List Markup}
    (h : tag ≠ "details") :
    elements isBlock (classed tag className children) = blocksOf children := by
  simp [elements_classed, isBlock, h]

@[simp] theorem blocksOf_heading {tag label : String} (h : tag ≠ "details") :
    blocksOf (heading tag label) = [] := by
  simp [heading, h]

@[simp] theorem blocksOf_paragraph {content : String} : blocksOf (paragraph content) = [] := by
  simp [paragraph]

@[simp] theorem blocks_dash {className : String} : elements isBlock (dash className) = [] := by
  simp [dash]

@[simp] theorem blocksOf_axisHeaders {axis : List String} : blocksOf (axisHeaders axis) = [] := by
  simp [axisHeaders]

@[simp] theorem blocksOf_table {attributes : List Attribute} {headers rows : List Markup}
    (h : ∀ a ∈ attributes, a.name ≠ "id") :
    blocksOf (table attributes headers rows) = blocksOf headers ++ blocksOf rows := by
  have hid : attributes.any (·.name == "id") = false := by simpa using h
  simp [table, isBlock, hid]

@[simp] theorem FeatureLink.blocks_html {l : FeatureLink} : elements isBlock l.html = [] := by
  simp [FeatureLink.html, isBlock]

@[simp] theorem blocksOf_superscripts {links : List RecordLink} :
    blocksOf (superscripts links) = [] := by
  unfold superscripts
  split
  · simp
  · simp [isBlock]

/-! ## Tabs -/

@[simp] theorem Mark.blocks_html {k : Mark} : elements isBlock k.html = [] := by
  cases k <;> simp [Mark.html]

theorem blocksOf_overviewTab {v : View} : blocksOf (overviewTab v) = [] := by
  simp [overviewTab, overviewLegend, OverviewFolder.html, OverviewRow.html, SummaryCard.html,
    isBlock]

@[simp] theorem blocksOf_scenarioItem {name : String} {tags : List String} :
    blocksOf (scenarioItem name tags) = [] := by
  unfold scenarioItem
  split <;> simp

/-- The element that shows a feature of a single language. -/
def OwnedFeature.element (f : OwnedFeature) : Markup :=
  f.html.headD newline

@[simp] theorem OwnedFeature.blocksOf_html {f : OwnedFeature} : blocksOf f.html = [f.element] := by
  simp [OwnedFeature.html, OwnedFeature.element, classed, isBlock]

theorem blocksOf_ownedTab {v : View} :
    blocksOf (ownedTab v) = (v.owned.flatMap (·.features)).map (·.element) := by
  unfold ownedTab
  split
  · simp_all
  · simp [OwnerSection.html, List.map_eq_flatMap, List.flatMap_assoc]

@[simp] theorem blocks_locationCell {source? : Option SourceLink} :
    elements isBlock (locationCell source?) = [] := by
  cases source? <;> simp [locationCell, isBlock]

@[simp] theorem RecordTest.blocksOf_html {t : RecordTest} : blocksOf t.html = [] := by
  simp [RecordTest.html, isBlock]

/-- The element that shows a record. -/
def RecordBlock.element (b : RecordBlock) : Markup :=
  b.html.headD newline

@[simp] theorem RecordBlock.blocksOf_html {b : RecordBlock} : blocksOf b.html = [b.element] := by
  unfold RecordBlock.element RecordBlock.html
  split <;> simp [isBlock]

theorem blocksOf_recordTab {t : RecordTab} : blocksOf t.html = t.blocks.map (·.element) := by
  unfold RecordTab.html
  split
  · simp_all
  · simp [List.map_eq_flatMap]

@[simp] theorem BreakdownCell.blocksOf_html {c : BreakdownCell} : blocksOf c.html = [] := by
  cases c with
  | notNeeded => simp [BreakdownCell.html, isBlock]
  | todo => simp [BreakdownCell.html]
  | noResult => simp [BreakdownCell.html]
  | result passed source? links => cases source? <;> simp [BreakdownCell.html, isBlock]

/-- The element that shows a feature in the breakdown. -/
def BreakdownBlock.element (axis : List String) (b : BreakdownBlock) : Markup :=
  (b.html axis).headD newline

@[simp] theorem BreakdownRow.blocksOf_html {r : BreakdownRow} : blocksOf r.html = [] := by
  simp [BreakdownRow.html]

@[simp] theorem BreakdownBlock.blocksOf_html {axis : List String} {b : BreakdownBlock} :
    blocksOf (b.html axis) = [b.element axis] := by
  unfold BreakdownBlock.element BreakdownBlock.html
  split <;> simp [isBlock]

theorem blocksOf_breakdownTab {v : View} :
    blocksOf (breakdownTab v) =
      (v.breakdown.flatMap (·.blocks)).map (·.element (v.axis)) := by
  simp [breakdownTab, breakdownLegend, BreakdownFolder.html, List.map_eq_flatMap,
    List.flatMap_assoc]

theorem blocksOf_missingTab {v : View} : blocksOf (missingTab v) = [] := by
  unfold missingTab
  split
  · simp
  · simp [MissingSection.html, MissingItem.html]

/-! ## The document -/

@[simp] theorem Tab.blocksOf_button {t : Tab} {index : Nat} : blocksOf (t.button index) = [] := by
  simp [Tab.button, isBlock]

/-- The element that holds the contents of a tab. -/
def Tab.element (t : Tab) (index : Nat) : Markup :=
  (t.panel index).headD newline

@[simp] theorem Tab.blocksOf_panel {t : Tab} {index : Nat} :
    blocksOf (t.panel index) = t.element index :: blocksOf t.content := by
  simp [Tab.panel, Tab.element, isBlock]

theorem blocksOf_body {title : String} {v : View} :
    blocksOf (body title v) =
      (tabs v).zipIdx.flatMap fun t => t.1.element t.2 :: blocksOf t.1.content := by
  simp [body]

/-- A page without rows or languages has no blocks. -/
theorem blocksOf_html {o : Options} {m : Matrix} :
    blocksOf (html o m) =
      if m.isEmpty then []
      else blocksOf (body o.title (.ofMatrix o.linkBase? m)) := by
  unfold html document
  split <;> simp [isBlock]

/-- What a tab has, the page has. -/
theorem mem_blocksOf_body {title : String} {v : View} {t : Tab} {e : Markup} (ht : t ∈ tabs v)
    (he : e ∈ blocksOf t.content) : e ∈ blocksOf (body title v) := by
  rw [← List.zipIdx_map_fst 0 (tabs v)] at ht
  obtain ⟨x, hx, rfl⟩ := List.mem_map.1 ht
  rw [blocksOf_body]
  exact List.mem_flatMap.2 ⟨x, hx, List.mem_cons_of_mem _ he⟩

/-! ## Ids -/

theorem OwnedFeature.id?_element (f : OwnedFeature) : id? f.element = none := rfl

theorem RecordBlock.id?_element (b : RecordBlock) : id? b.element = some b.anchor := rfl

theorem BreakdownBlock.id?_element (axis : List String) (b : BreakdownBlock) :
    id? (b.element axis) = some b.link.anchor := rfl

theorem Tab.id?_element (t : Tab) (index : Nat) : id? (t.element index) = some (escape t.id) := rfl

end Page

end SpecCoverage
