-- SUMMARY: The panels of a report page, the buttons for them, and what is found in them.
import Mathlib.Data.List.Nodup
import SpecCoverage.Proofs.PageBlocks

/-!
# Panels of a page

What a page shows is read off its tree: a panel by its id, rows, cards and blocks by their tags and
attributes, and what an element says by its texts. The panels of a page hold its tabs, one each, and
the page has a button for each.
-/
namespace SpecCoverage

/-- The only element of a list with its key, where keys are distinct. -/
theorem filter_eq_singleton {α κ : Type} [DecidableEq κ] {key : α → κ} {xs : List α}
    (h : (xs.map key).Nodup) {x : α} (hx : x ∈ xs) :
    xs.filter (fun y => decide (key y = key x)) = [x] := by
  induction xs with
  | nil => cases hx
  | cons y ys ih =>
    obtain ⟨hy, hys⟩ := List.nodup_cons.1 h
    obtain rfl | hx := List.mem_cons.1 hx
    · have hrest : ys.filter (fun z => decide (key z = key x)) = [] := by
        refine List.filter_eq_nil_iff.2 fun z hz heq => hy ?_
        exact of_decide_eq_true heq ▸ List.mem_map_of_mem hz
      have hself : decide (key x = key x) = true := decide_eq_true rfl
      rw [List.filter_cons, if_pos hself, hrest]
    · have hne : key y ≠ key x := fun heq => hy (heq ▸ List.mem_map_of_mem hx)
      rw [List.filter_cons_of_neg (by simpa using hne), ih hys hx]

namespace Markup

/-! ## Reading a tree -/

/-- What stands inside an element. -/
def contents : Markup → List Markup
  | .value _ | .void _ _ => []
  | .element _ _ children => children

mutual

/-- The texts of a tree, in order. -/
def texts : Markup → List String
  | .value (.text s) => [s]
  | .value (.verbatim _) => []
  | .element _ _ children => textsOfAll children
  | .void _ _ => []

def textsOfAll : List Markup → List String
  | [] => []
  | m :: ms => texts m ++ textsOfAll ms

end

/-- The first text that trees show. -/
def shown? (ms : List Markup) : Option String :=
  (textsOfAll ms).head?

/-- Has the element one of some tags? -/
def tagged (tags : List String) (tag : String) (_ : List Attribute) : Bool :=
  tags.contains tag

/-- Is the element a row of a table? The rows that head others have a class. -/
def isRow (tag : String) (attributes : List Attribute) : Bool :=
  tag == "tr" && attributes.isEmpty

/-- Is the element the summary of a language? -/
def isCard (tag : String) (attributes : List Attribute) : Bool :=
  tag == "div" && attributes == [attr "class" "summary-card"]

/-- Is the element a panel, a division with a name? -/
def isPanel (tag : String) (attributes : List Attribute) : Bool :=
  tag == "div" && attributes.any (·.name == "id")

/-- What the panels with an id hold. -/
def panel (id : String) (page : List Markup) : List Markup :=
  ((elementsOfAll isPanel page).filter (·.id? = some id)).flatMap contents

/-! ## Elements among elements -/

/-- Does a condition on tag and attributes hold of an element? -/
def meets (p : String → List Attribute → Bool) : Markup → Bool
  | .value _ => false
  | .element tag attributes _ | .void tag attributes => p tag attributes

variable {p q : String → List Attribute → Bool}

mutual

theorem filter_elements (h : ∀ tag attributes, q tag attributes = true → p tag attributes = true)
    (m : Markup) : (elements p m).filter (meets q) = elements q m := by
  cases m with
  | value v => rfl
  | element tag attributes children =>
    rw [elements_element, elements_element, List.filter_append, filter_elementsOfAll h children]
    cases hq : q tag attributes with
    | true => simp [h tag attributes hq, meets, hq]
    | false => cases p tag attributes <;> simp [meets, hq]
  | void tag attributes =>
    rw [elements_void, elements_void]
    cases hq : q tag attributes with
    | true => simp [h tag attributes hq, meets, hq]
    | false => cases p tag attributes <;> simp [meets, hq]

/-- Where a condition is the stronger one, its elements are found among those of the other. -/
theorem filter_elementsOfAll
    (h : ∀ tag attributes, q tag attributes = true → p tag attributes = true)
    (ms : List Markup) : (elementsOfAll p ms).filter (meets q) = elementsOfAll q ms := by
  cases ms with
  | nil => simp
  | cons m ms =>
    rw [elementsOfAll_cons, elementsOfAll_cons, List.filter_append, filter_elements h m,
      filter_elementsOfAll h ms]

end

end Markup

open Markup

theorem RecordKind.mem_all (k : RecordKind) : k ∈ all := by
  cases k <;> decide

namespace Page

/-! ## Panels -/

/-- The ids of the panels, in the order of the tabs. -/
def panelIds : List String :=
  ["overview-tab", "language-tab", "bc-tab", "bd-tab", "details-tab", "missing-tab"]

theorem panelIds_nodup : panelIds.Nodup := by
  decide

/-- What holds of each kind of tab holds of what all tabs of a page contain. -/
theorem forall_content {P : List Markup → Prop} {v : View} (hoverview : P (overviewTab v))
    (howned : P (ownedTab v)) (hrecords : ∀ t ∈ v.records, P t.html)
    (hbreakdown : P (breakdownTab v)) (hmissing : P (missingTab v)) :
    ∀ t ∈ tabs v, P t.content := by
  simp only [tabs, List.forall_mem_append, List.forall_mem_cons, List.forall_mem_map]
  exact ⟨⟨⟨hoverview, howned, by simp⟩, hrecords⟩, hbreakdown, hmissing, by simp⟩

/-- What can be opened in a tab is no panel. -/
theorem not_isPanel_of_mem_blocksOf {v : View} :
    ∀ t ∈ tabs v, ∀ e ∈ blocksOf t.content, meets isPanel e = false := by
  refine forall_content (P := fun content => ∀ e ∈ blocksOf content, meets isPanel e = false)
    ?_ ?_ ?_ ?_ ?_
  · simp [blocksOf_overviewTab]
  · rw [blocksOf_ownedTab, List.forall_mem_map]
    exact fun _ _ => rfl
  · intro t _
    rw [blocksOf_recordTab, List.forall_mem_map]
    exact fun _ _ => rfl
  · rw [blocksOf_breakdownTab, List.forall_mem_map]
    exact fun _ _ => rfl
  · simp [blocksOf_missingTab]

theorem tabs_ids (base? : Option String) (m : Matrix) :
    (tabs (.ofMatrix base? m)).map (·.id) = panelIds :=
  rfl

theorem tabs_escaped_ids (base? : Option String) (m : Matrix) :
    (tabs (.ofMatrix base? m)).map (escape ·.id) = panelIds := by
  have hescaped : panelIds.map escape = panelIds := by decide
  rw [← hescaped, ← tabs_ids base? m, List.map_map]
  rfl

section

variable {o : Options} {m : Matrix}

/-- A page that shows anything has a panel for each tab. -/
theorem panels_html (hshown : m.isEmpty = false) :
    elementsOfAll isPanel (html o m) =
      (tabs (.ofMatrix o.linkBase? m)).zipIdx.map fun t => t.1.element t.2 := by
  have hblock : ∀ tag attributes, isPanel tag attributes = true → isBlock tag attributes = true := by
    intro tag attributes h
    exact Bool.or_eq_true_iff.2 (.inr (Bool.and_eq_true_iff.1 h).2)
  rw [← filter_elementsOfAll hblock]
  change (blocksOf (html o m)).filter (meets isPanel) = _
  rw [blocksOf_html, if_neg (by simp [hshown]), blocksOf_body, List.filter_flatMap,
    List.map_eq_flatMap]
  refine List.flatMap_congr fun t ht => ?_
  have hcontent : (blocksOf t.1.content).filter (meets isPanel) = [] :=
    List.filter_eq_nil_iff.2 fun e he =>
      Bool.eq_false_iff.1 (not_isPanel_of_mem_blocksOf _ (List.fst_mem_of_mem_zipIdx ht) e he)
  rw [List.filter_cons_of_pos rfl, hcontent]

/-- Each panel of a page that shows anything holds its tab. -/
theorem panel_html (hshown : m.isEmpty = false) {t : Tab}
    (ht : t ∈ tabs (.ofMatrix o.linkBase? m)) :
    panel t.id (html o m) = newline :: t.content := by
  have hescape : escape t.id = t.id :=
    List.map_inj_left.1 ((tabs_escaped_ids _ m).trans (tabs_ids o.linkBase? m).symm) t ht
  rw [← List.zipIdx_map_fst 0 (tabs (.ofMatrix o.linkBase? m))] at ht
  obtain ⟨⟨t, i⟩, hi, rfl⟩ := List.mem_map.1 ht
  have hids : ((tabs (.ofMatrix o.linkBase? m)).zipIdx.map fun t => escape t.1.id).Nodup := by
    have hfst := congrArg (List.map (escape ·.id))
      (List.zipIdx_map_fst 0 (tabs (.ofMatrix o.linkBase? m)))
    rw [List.map_map] at hfst
    exact (hfst.trans (tabs_escaped_ids _ m)) ▸ panelIds_nodup
  have hid (x : Tab × Nat) :
      decide ((x.1.element x.2).id? = some t.id) = decide (escape x.1.id = escape t.id) := by
    refine decide_eq_decide.2 ?_
    rw [Tab.id?_element, Option.some_inj, hescape]
  have hpanel : ((tabs (.ofMatrix o.linkBase? m)).zipIdx.map fun t => t.1.element t.2).filter
      (·.id? = some t.id) = [t.element i] := by
    rw [List.filter_map, Function.comp_def, funext hid]
    exact congrArg (List.map _) (filter_eq_singleton hids hi)
  rw [panel, panels_html hshown, hpanel, List.flatMap_singleton]
  rfl

/-- The elements in a panel are those of its tab. -/
theorem elementsOfAll_panel {p : String → List Attribute → Bool} (hshown : m.isEmpty = false)
    {t : Tab} (ht : t ∈ tabs (.ofMatrix o.linkBase? m)) :
    elementsOfAll p (panel t.id (html o m)) = elementsOfAll p t.content := by
  rw [panel_html hshown ht, elementsOfAll_cons, elements_newline, List.nil_append]

variable {p : String → List Attribute → Bool}

theorem elementsOfAll_overviewPanel (hshown : m.isEmpty = false) :
    elementsOfAll p (panel "overview-tab" (html o m)) =
      elementsOfAll p (overviewTab (.ofMatrix o.linkBase? m)) :=
  elementsOfAll_panel hshown (t := ⟨"overview-tab", _, _⟩) List.mem_cons_self

theorem elementsOfAll_ownedPanel (hshown : m.isEmpty = false) :
    elementsOfAll p (panel "language-tab" (html o m)) =
      elementsOfAll p (ownedTab (.ofMatrix o.linkBase? m)) :=
  elementsOfAll_panel hshown (t := ⟨"language-tab", _, _⟩)
    (List.mem_cons_of_mem _ List.mem_cons_self)

theorem elementsOfAll_recordPanel (hshown : m.isEmpty = false) (k : RecordKind) :
    elementsOfAll p (panel (k.slug ++ "-tab") (html o m)) =
      elementsOfAll p (RecordTab.html
        ⟨k, (recordsOf m k).length, (recordsOf m k).map (.ofRecord o.linkBase?)⟩) := by
  refine elementsOfAll_panel hshown (t := RecordTab.tab ⟨k, _, _⟩) ?_
  exact List.mem_append_left _ (List.mem_append_right _
    (List.mem_map_of_mem (List.mem_map_of_mem k.mem_all)))

theorem elementsOfAll_breakdownPanel (hshown : m.isEmpty = false) :
    elementsOfAll p (panel "details-tab" (html o m)) =
      elementsOfAll p (breakdownTab (.ofMatrix o.linkBase? m)) :=
  elementsOfAll_panel hshown (t := ⟨"details-tab", _, _⟩)
    (List.mem_append_right _ List.mem_cons_self)

theorem elementsOfAll_missingPanel (hshown : m.isEmpty = false) :
    elementsOfAll p (panel "missing-tab" (html o m)) =
      elementsOfAll p (missingTab (.ofMatrix o.linkBase? m)) :=
  elementsOfAll_panel hshown (t := ⟨"missing-tab", _, _⟩)
    (List.mem_append_right _ (List.mem_cons_of_mem _ List.mem_cons_self))

end

/-! ## Cells without elements of a kind -/

section

variable {p : String → List Attribute → Bool}

theorem elementsOfAll_superscripts (hsup : ∀ attributes, p "sup" attributes = false)
    (ha : ∀ attributes, p "a" attributes = false) (links : List RecordLink) :
    elementsOfAll p (superscripts links) = [] := by
  unfold superscripts
  split <;> simp [elements_classed, hsup, ha]

theorem Mark.elements_html (hspan : ∀ attributes, p "span" attributes = false) (k : Mark) :
    elements p k.html = [] := by
  cases k <;> simp [Mark.html, dash, elements_classed, hspan]

theorem BreakdownCell.elementsOfAll_html (hspan : ∀ attributes, p "span" attributes = false)
    (hsup : ∀ attributes, p "sup" attributes = false) (ha : ∀ attributes, p "a" attributes = false)
    (c : BreakdownCell) : elementsOfAll p c.html = [] := by
  cases c with
  | notNeeded => simp [BreakdownCell.html, hspan]
  | todo => simp [BreakdownCell.html, elements_classed, hspan]
  | noResult => simp [BreakdownCell.html, elements_classed, hspan]
  | result passed source? links =>
    cases source? <;> simp [BreakdownCell.html, ha, elementsOfAll_superscripts hsup ha]

theorem elementsOfAll_scenarioItem (hli : ∀ attributes, p "li" attributes = false)
    (hspan : ∀ attributes, p "span" attributes = false) (name : String) (tags : List String) :
    elementsOfAll p (scenarioItem name tags) = [] := by
  unfold scenarioItem
  split <;> simp [elements_plain, elements_classed, hli, hspan]

theorem elementsOfAll_axisHeaders (hth : ∀ attributes, p "th" attributes = false)
    (axis : List String) : elementsOfAll p (axisHeaders axis) = [] := by
  simp [axisHeaders, elements_plain, hth]

end

/-! ## Rows and cards -/

/-- The link to the block of the feature with a path and a title. -/
def linkTo (path title : String) : Markup :=
  .element "a" [attrVerbatim "href" ("#" ++ Link.featureAnchor path)] [text title]

/-- The link to the block of a feature. -/
def featureLink (f : Feature) : Markup :=
  linkTo f.path f.title

/-- The element that shows a feature in the overview. -/
def OverviewRow.element (r : OverviewRow) : Markup :=
  r.html.headD newline

theorem OverviewRow.rows_html {r : OverviewRow} : elementsOfAll isRow r.html = [r.element] := by
  have hmark (k : Mark) : elements isRow k.html = [] :=
    k.elements_html (by simp [isRow])
  have hlinks (links : List RecordLink) : elementsOfAll isRow (superscripts links) = [] :=
    elementsOfAll_superscripts (by simp [isRow]) (by simp [isRow]) links
  simp [OverviewRow.html, OverviewRow.element, FeatureLink.html, elements_plain, elements_classed,
    isRow, hmark, hlinks]

theorem rows_overviewTab {v : View} :
    elementsOfAll isRow (overviewTab v) =
      plain "tr" (plain "th" [text "Feature"] :: axisHeaders v.axis) ::
        v.overviewRows.map (·.element) := by
  have haxis : elementsOfAll isRow (axisHeaders v.axis) = [] :=
    elementsOfAll_axisHeaders (by simp [isRow]) v.axis
  have hcards : (v.cards.flatMap fun c => elementsOfAll isRow c.html) = [] := by
    simp [SummaryCard.html, elements_plain, elements_classed, isRow]
  simp [overviewTab, heading, overviewLegend, table, dash, OverviewFolder.html, elements_plain,
    elements_classed, OverviewRow.rows_html, isRow, haxis, hcards, View.overviewRows,
    List.map_eq_flatMap, List.flatMap_assoc]

/-- The element that shows the summary of a language. -/
def SummaryCard.element (c : SummaryCard) : Markup :=
  c.html.headD newline

theorem SummaryCard.cards_html {c : SummaryCard} : elementsOfAll isCard c.html = [c.element] := by
  have hvalue : "value " ++ c.styleName ≠ "summary-card" := by
    simp [String.ext_iff]
  simp [SummaryCard.html, SummaryCard.element, elements_plain, elements_classed, isCard, attr,
    hvalue]

theorem cards_overviewTab {v : View} :
    elementsOfAll isCard (overviewTab v) = v.cards.map (·.element) := by
  have hmark (k : Mark) : elements isCard k.html = [] :=
    k.elements_html (by simp [isCard])
  have hlinks (links : List RecordLink) : elementsOfAll isCard (superscripts links) = [] :=
    elementsOfAll_superscripts (by simp [isCard]) (by simp [isCard]) links
  have haxis : elementsOfAll isCard (axisHeaders v.axis) = [] :=
    elementsOfAll_axisHeaders (by simp [isCard]) v.axis
  have hfolders (columns : Nat) :
      (v.overview.flatMap fun f => elementsOfAll isCard (f.html columns)) = [] := by
    simp [OverviewFolder.html, OverviewRow.html, FeatureLink.html, elements_plain,
      elements_classed, isCard, hmark, hlinks]
  simp [overviewTab, heading, overviewLegend, table, dash, elements_plain, elements_classed,
    SummaryCard.cards_html, isCard, attr, haxis, hfolders, List.map_eq_flatMap]

/-- The element that shows a scenario in the breakdown. -/
def BreakdownRow.element (r : BreakdownRow) : Markup :=
  r.html.headD newline

theorem BreakdownRow.rows_html {r : BreakdownRow} : elementsOfAll isRow r.html = [r.element] := by
  have hcell (c : BreakdownCell) : elementsOfAll isRow c.html = [] :=
    c.elementsOfAll_html (by simp [isRow]) (by simp [isRow]) (by simp [isRow])
  simp [BreakdownRow.html, BreakdownRow.element, elements_plain, elements_classed, isRow, hcell]

/-- The rows of scenarios in a block, without the one that heads them. -/
def scenarioRows (block : Markup) : List Markup :=
  (elementsOfAll isRow [block]).drop 1

theorem scenarioRows_element {axis : List String} {b : BreakdownBlock} :
    scenarioRows (b.element axis) = b.rows.map (·.element) := by
  have haxis : elementsOfAll isRow (axisHeaders axis) = [] :=
    elementsOfAll_axisHeaders (by simp [isRow]) axis
  unfold scenarioRows BreakdownBlock.element BreakdownBlock.html
  split
  · simp_all [paragraph, elements_plain, elements_classed, isRow]
  · simp [table, elements_plain, elements_classed, isRow, haxis, BreakdownRow.rows_html,
      List.map_eq_flatMap]

/-- A block of a single-language feature has one link, the one to that feature. -/
theorem OwnedFeature.links_element (f : OwnedFeature) :
    elementsOfAll (tagged ["a"]) [f.element] = [f.link.html] := by
  have hscenario (name : String) (tags : List String) :
      elementsOfAll (tagged ["a"]) (scenarioItem name tags) = [] :=
    elementsOfAll_scenarioItem (by simp [tagged]) (by simp [tagged]) name tags
  simp [OwnedFeature.element, OwnedFeature.html, FeatureLink.html, elements_plain,
    elements_classed, tagged, hscenario]

/-! ## Panels of a matrix -/

section

variable {o : Options} {m : Matrix}

theorem rows_overviewPanel (hshown : m.isEmpty = false) (hlisted : m.listedRows = m.rows) :
    elementsOfAll isRow (panel "overview-tab" (html o m)) =
      plain "tr" (plain "th" [text "Feature"] :: axisHeaders (m.languages.map (·.label))) ::
        m.sharedRows.map fun r => (OverviewRow.ofRow m.languages r).element := by
  rw [elementsOfAll_overviewPanel hshown, rows_overviewTab, overviewRows_ofMatrix hlisted,
    List.map_map]
  rfl

theorem blocksOf_breakdownPanel (hshown : m.isEmpty = false) (hlisted : m.listedRows = m.rows) :
    blocksOf (panel "details-tab" (html o m)) = m.rows.map fun r =>
      (BreakdownBlock.ofRow o.linkBase? m.languages r).element (m.languages.map (·.label)) := by
  have hpanel : blocksOf (panel "details-tab" (html o m)) =
      blocksOf (breakdownTab (.ofMatrix o.linkBase? m)) :=
    elementsOfAll_breakdownPanel hshown
  rw [hpanel, blocksOf_breakdownTab, ← View.blocks, blocks_ofMatrix hlisted, List.map_map]
  rfl

end

/-! ## Buttons -/

/-- The element that opens a tab. -/
def Tab.opener (t : Tab) (index : Nat) : Markup :=
  (t.button index).headD newline

theorem buttons_axisHeaders (axis : List String) :
    elementsOfAll (tagged ["button"]) (axisHeaders axis) = [] :=
  elementsOfAll_axisHeaders (by simp [tagged]) axis

theorem buttons_overviewTab {v : View} :
    elementsOfAll (tagged ["button"]) (overviewTab v) = [] := by
  have hlinks (links : List RecordLink) :
      elementsOfAll (tagged ["button"]) (superscripts links) = [] :=
    elementsOfAll_superscripts (by simp [tagged]) (by simp [tagged]) links
  have hmark (k : Mark) : elements (tagged ["button"]) k.html = [] :=
    k.elements_html (by simp [tagged])
  simp [overviewTab, heading, overviewLegend, table, dash, OverviewFolder.html, OverviewRow.html,
    FeatureLink.html, SummaryCard.html, elements_plain, elements_classed, tagged,
    buttons_axisHeaders, hmark, hlinks]

theorem buttons_ownedTab {v : View} : elementsOfAll (tagged ["button"]) (ownedTab v) = [] := by
  have hscenario (name : String) (tags : List String) :
      elementsOfAll (tagged ["button"]) (scenarioItem name tags) = [] :=
    elementsOfAll_scenarioItem (by simp [tagged]) (by simp [tagged]) name tags
  unfold ownedTab
  split <;> simp [heading, paragraph, OwnerSection.html, OwnedFeature.html, FeatureLink.html,
    elements_plain, elements_classed, tagged, hscenario]

theorem buttons_recordTab {t : RecordTab} : elementsOfAll (tagged ["button"]) t.html = [] := by
  have hlocation (source? : Option SourceLink) :
      elements (tagged ["button"]) (locationCell source?) = [] := by
    cases source? <;> simp [locationCell, dash, elements_classed, tagged]
  have hblock (b : RecordBlock) : elementsOfAll (tagged ["button"]) b.html = [] := by
    unfold RecordBlock.html
    split <;> simp [paragraph, table, RecordTest.html, elements_plain, elements_classed, tagged,
      hlocation]
  unfold RecordTab.html
  split <;> simp [heading, paragraph, elements_plain, tagged, hblock]

theorem buttons_breakdownTab {v : View} :
    elementsOfAll (tagged ["button"]) (breakdownTab v) = [] := by
  have hcell (c : BreakdownCell) : elementsOfAll (tagged ["button"]) c.html = [] :=
    c.elementsOfAll_html (by simp [tagged]) (by simp [tagged]) (by simp [tagged])
  have hblock (b : BreakdownBlock) : elementsOfAll (tagged ["button"]) (b.html v.axis) = [] := by
    unfold BreakdownBlock.html
    split <;> simp [paragraph, table, BreakdownRow.html, elements_plain, elements_classed, tagged,
      buttons_axisHeaders, hcell]
  simp [breakdownTab, heading, breakdownLegend, dash, BreakdownFolder.html, elements_plain,
    elements_classed, tagged, hblock]

theorem buttons_missingTab {v : View} : elementsOfAll (tagged ["button"]) (missingTab v) = [] := by
  unfold missingTab
  split <;> simp [heading, paragraph, MissingSection.html, MissingItem.html, FeatureLink.html,
    elements_plain, elements_classed, tagged]

/-- No tab has a button in it. -/
theorem buttons_content {v : View} :
    ∀ t ∈ tabs v, elementsOfAll (tagged ["button"]) t.content = [] :=
  forall_content (P := fun content => elementsOfAll (tagged ["button"]) content = [])
    buttons_overviewTab buttons_ownedTab (fun _ _ => buttons_recordTab) buttons_breakdownTab
    buttons_missingTab

/-- The buttons of a page that shows anything are those that open its tabs. -/
theorem buttons_html {o : Options} {m : Matrix} (hshown : m.isEmpty = false) :
    elementsOfAll (tagged ["button"]) (html o m) =
      (tabs (.ofMatrix o.linkBase? m)).zipIdx.map fun t => t.1.opener t.2 := by
  have hbutton (t : Tab) (index : Nat) :
      elementsOfAll (tagged ["button"]) (t.button index) = [t.opener index] := by
    simp [Tab.button, Tab.opener, tagged]
  have hpanels : ((tabs (.ofMatrix o.linkBase? m)).zipIdx.flatMap fun t =>
      elementsOfAll (tagged ["button"]) (t.1.panel t.2)) = [] := by
    refine List.flatMap_eq_nil_iff.2 fun t ht => ?_
    simp [Tab.panel, tagged, buttons_content _ (List.fst_mem_of_mem_zipIdx ht)]
  simp [html, document, body, heading, hshown, elements_plain, elements_classed, tagged, hbutton,
    hpanels, List.map_eq_flatMap]

end Page

end SpecCoverage
