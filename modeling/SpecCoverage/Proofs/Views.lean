-- SUMMARY: The text table and all tabs of the report page tell the same about a feature and a language.
import SpecCoverage.Proofs.Coverage
import SpecCoverage.Proofs.Owners
import SpecCoverage.Proofs.PagePanels
import SpecCoverage.Proofs.TableLayout

/-!
# Agreement of the views

The table, the overview, the tab of single-language features, the breakdown and the summary cards
each derive from the matrix what they show. They agree since a built matrix calls a feature
implemented only where every scenario passes (`LanguageResult.Clean`). What the page shows is read
off its panels: the rows, blocks and cards in them, and the first text of a cell.
-/
namespace SpecCoverage

open Markup

-- ---------------------------------------------------------------------------
-- Results
-- ---------------------------------------------------------------------------

/-- A language implements a feature only where it passes every scenario. -/
def LanguageResult.Clean (res : LanguageResult) (scenarios : List String) : Prop :=
  res.implemented = true → ∀ name ∈ scenarios, res.statuses.get? name = some .pass

theorem LanguageResult.Reports.clean {res : LanguageResult} {v : LanguageVerdict} {l : Language}
    {scenarios : List String} (h : res.Reports v l scenarios) : res.Clean scenarios := by
  intro himpl name hname
  cases hflag : v.statusOf name with
  | pass =>
    refine (h.statuses name .pass).2 ⟨hname, ?_⟩
    rw [← LanguageVerdict.statusOf_eq_fail_iff, hflag]
  | fail =>
    have hstatus : res.statuses.get? name = some .fail :=
      (h.statuses name .fail).2 ⟨hname, by rw [← LanguageVerdict.statusOf_eq_fail_iff, hflag]⟩
    exact absurd ((h.implemented.1 himpl).2 name .fail hstatus) (by decide)

theorem Row.isImplementedFor_iff {r : Row} {l : Language} :
    r.isImplementedFor l = true ↔ ∃ res, r.result? l = some res ∧ res.implemented = true := by
  cases h : r.result? l <;> simp [isImplementedFor, h]

theorem Table.shows_pass_iff {r : Row} {l : Language} :
    Shows r l "PASS" ↔ r.isImplementedFor l = true := by
  rw [shows_iff]
  unfold cell Row.isImplementedFor
  cases r.result? l with
  | none => decide
  | some res => cases h : res.implemented <;> simp [h, Status.label]

theorem Table.shows_fail_iff {r : Row} {l : Language} :
    Shows r l "FAIL" ↔ ∃ res, r.result? l = some res ∧ res.implemented = false := by
  rw [shows_iff]
  unfold cell
  cases r.result? l with
  | none => simp
  | some res => cases h : res.implemented <;> simp [h, Status.label]

/-- A status that is no pass: the language is there and does not implement the feature. -/
theorem Table.shows_fail_of_status {r : Row} {s : Scenario} {l : Language}
    (hclean : ∀ res, r.result? l = some res → res.Clean r.feature.scenarioNames)
    (hs : s ∈ r.feature.scenarios) {res : LanguageResult} (hres : r.result? l = some res)
    (hstatus : res.statuses.get? s.name ≠ some .pass) : Shows r l "FAIL" := by
  refine shows_fail_iff.2 ⟨res, hres, ?_⟩
  rw [← Bool.not_eq_true]
  exact fun himpl => hstatus (hclean res hres himpl s.name (List.mem_map_of_mem hs))

-- ---------------------------------------------------------------------------
-- Agreement, part by part
-- ---------------------------------------------------------------------------

namespace Page

/-- Does a row of the overview show the mark of an implemented feature in a column? The first cell
is that of the feature. -/
def marked (row : Markup) (column : Nat) : Bool :=
  row.contents[column + 1]?.any fun cell => shown? [cell] == some "✓"

/-- A row of the overview has the mark just where the table says `PASS`. -/
structure OverviewRowAgrees (axis : List Language) (row : Markup) (r : Row) : Prop where
  link : row.contents.head? = some (plain "td" [featureLink r.feature])
  marks : ∀ (column : Nat) (l : Language), axis[column]? = some l →
    (marked row column = true ↔ Table.Shows r l "PASS")

theorem shown?_mark (k : Mark) (links : List RecordLink) :
    shown? [classed "td" "status" (k.html :: superscripts links)] = some (match k with
      | .implemented => "✓"
      | .incomplete => "✗"
      | .noResult => "-") := by
  cases k <;> rfl

theorem overviewRowAgrees_ofRow (axis : List Language) (r : Row) :
    OverviewRowAgrees axis (OverviewRow.ofRow axis r).element r where
  link := rfl
  marks := by
    intro column l hl
    have hcell : (OverviewRow.ofRow axis r).element.contents[column + 1]? =
        some (classed "td" "status" ((Mark.ofRow r l).html :: superscripts (rowLinks r l))) := by
      simp [OverviewRow.element, OverviewRow.html, OverviewRow.ofRow, plain, contents, hl]
    rw [Table.shows_pass_iff, marked, hcell, Option.any_some, shown?_mark]
    unfold Mark.ofRow Row.isImplementedFor
    cases r.result? l with
    | none => simp
    | some res => cases h : res.implemented <;> simp [h]

/-- The icon of a single-language feature is green just where the table says `PASS` of its
language. -/
structure OwnedBlockAgrees (block : Markup) (r : Row) : Prop where
  link : elementsOfAll (tagged ["a"]) [block] = [featureLink r.feature]
  green : ∀ l, r.feature.scope.owner? = some l →
    (shown? [block] = some "✅ " ↔ Table.Shows r l "PASS")

theorem OwnedFeature.shown?_element (f : OwnedFeature) :
    shown? [f.element] = some (if f.implemented then "✅ " else "❌ ") :=
  rfl

theorem ownedBlockAgrees_ofRow {l : Language} {r : Row} (hl : r.feature.scope.owner? = some l) :
    OwnedBlockAgrees (OwnedFeature.ofRow l r).element r where
  link := OwnedFeature.links_element _
  green := by
    intro l' hl'
    obtain rfl := Option.some.inj (hl.symm.trans hl')
    rw [Table.shows_pass_iff, OwnedFeature.shown?_element, OwnedFeature.ofRow]
    cases r.isImplementedFor l <;> simp

/-- What a cell of the breakdown shows and what the table says of its feature and language. -/
structure BreakdownCellAgrees (r : Row) (s : Scenario) (cell : Markup) (l : Language) : Prop where
  passed : Table.Shows r l "PASS" → shown? [cell] = some "✅" ∨ shown? [cell] = some "-"
  failed : shown? [cell] = some "❌" → Table.Shows r l "FAIL"
  todo : shown? [cell] = some "TODO" → r.status? l s.name = some .fail → Table.Shows r l "FAIL"

/-- The cell of a table that holds a cell of the breakdown. -/
def BreakdownCell.element (c : BreakdownCell) : Markup :=
  classed "td" "status" c.html

theorem BreakdownCell.shown?_element (c : BreakdownCell) :
    shown? [c.element] = some (match c with
      | .notNeeded => "-"
      | .todo => "TODO"
      | .noResult => "N/A"
      | .result passed _ _ => if passed then "✅" else "❌") := by
  cases c with
  | notNeeded => rfl
  | todo => rfl
  | noResult => rfl
  | result passed source? links => cases source? <;> rfl

theorem breakdownCellAgrees_ofRow {base? : Option String} {r : Row} {s : Scenario} {l : Language}
    (hclean : ∀ res, r.result? l = some res → res.Clean r.feature.scenarioNames)
    (hs : s ∈ r.feature.scenarios) :
    BreakdownCellAgrees r s (BreakdownCell.ofRow base? r s l).element l where
  passed := by
    intro hpass
    obtain ⟨res, hres, himpl⟩ := Row.isImplementedFor_iff.1 (Table.shows_pass_iff.1 hpass)
    have hstatus : res.statuses.get? s.name = some .pass :=
      hclean res hres himpl s.name (List.mem_map_of_mem hs)
    rw [BreakdownCell.shown?_element]
    by_cases hexcluded : s.isExcludedFor l = true
    · simp [BreakdownCell.ofRow, hexcluded]
    · simp [BreakdownCell.ofRow, BreakdownCell.ofResult, hexcluded, Row.status?, hres, hstatus]
  failed := by
    intro hshown
    rw [BreakdownCell.shown?_element] at hshown
    cases hcell : BreakdownCell.ofRow base? r s l with
    | notNeeded => simp [hcell] at hshown
    | todo => simp [hcell] at hshown
    | noResult => simp [hcell] at hshown
    | result passed source? links =>
      have hpassed : passed = false := by simpa [hcell] using hshown
      obtain ⟨res, hres, rfl, -⟩ := BreakdownCell.of_ofRow_eq_result hcell
      exact Table.shows_fail_of_status hclean hs hres (by simpa using hpassed)
  todo := by
    intro _ hstatus
    obtain ⟨res, hres, hstatus⟩ := Option.bind_eq_some_iff.1 hstatus
    exact Table.shows_fail_of_status hclean hs hres (by rw [hstatus]; decide)

/-- A row of the breakdown is that of a scenario, with a cell for each language. -/
structure BreakdownRowAgrees (axis : List Language) (r : Row) (row : Markup) (s : Scenario) :
    Prop where
  scenario : row.contents.head?.bind (fun cell => shown? [cell]) = some s.name
  cells : List.Forall₂ (BreakdownCellAgrees r s) row.contents.tail axis

theorem breakdownRowAgrees_ofScenario {base? : Option String} {axis : List Language} {r : Row}
    {s : Scenario} (hclean : ∀ l res, r.result? l = some res → res.Clean r.feature.scenarioNames)
    (hs : s ∈ r.feature.scenarios) :
    BreakdownRowAgrees axis r (BreakdownRow.ofScenario base? axis r s).element s where
  scenario := rfl
  cells := by
    change List.Forall₂ _ (((axis.map (BreakdownCell.ofRow base? r s)).map (·.element))) axis
    rw [List.map_map]
    exact List.forall₂_map_left_iff.2
      (List.forall₂_same.2 fun l _ => breakdownCellAgrees_ofRow (hclean l) hs)

/-- A block of the breakdown is that of a feature, with a row for each scenario. -/
structure BreakdownBlockAgrees (axis : List Language) (block : Markup) (r : Row) : Prop where
  anchor : id? block = some (Link.featureAnchor r.feature.path)
  title : shown? [block] = some r.feature.title
  rows : List.Forall₂ (BreakdownRowAgrees axis r) (scenarioRows block) r.feature.scenarios

theorem breakdownBlockAgrees_ofRow {base? : Option String} {axis : List Language}
    {labels : List String} {r : Row}
    (hclean : ∀ l res, r.result? l = some res → res.Clean r.feature.scenarioNames) :
    BreakdownBlockAgrees axis ((BreakdownBlock.ofRow base? axis r).element labels) r where
  anchor := rfl
  title := rfl
  rows := by
    rw [scenarioRows_element, BreakdownBlock.ofRow, List.map_map]
    exact List.forall₂_map_left_iff.2
      (List.forall₂_same.2 fun s hs => breakdownRowAgrees_ofScenario hclean hs)

-- ---------------------------------------------------------------------------
-- Agreement of the page
-- ---------------------------------------------------------------------------

/-- The rows of features in the overview of a page, without the one that heads them. -/
def overviewRowsOf (page : List Markup) : List Markup :=
  (elementsOfAll isRow (panel "overview-tab" page)).drop 1

/-- The blocks of single-language features on a page. -/
def ownedBlocksOf (page : List Markup) : List Markup :=
  blocksOf (panel "language-tab" page)

/-- The blocks of features in the breakdown of a page. -/
def breakdownBlocksOf (page : List Markup) : List Markup :=
  blocksOf (panel "details-tab" page)

/-- The summaries of languages on a page. -/
def cardsOf (page : List Markup) : List Markup :=
  elementsOfAll isCard (panel "overview-tab" page)

/-- The number of scenarios of the features whose rows have the mark in a column. -/
def markedScenarios (rows : List (Markup × Row)) (column : Nat) : Nat :=
  ((rows.filter (marked ·.1 column)).map (·.2.feature.scenarios.length)).sum

/-- The text table and the parts of the page tell the same of every feature and language. -/
structure ViewsAgree (o : Options) (m : Matrix) : Prop where
  table : ∀ text, Table.render? m = some text → ∃ start header rule parts,
    Table.ShowsMatrix m start header rule parts ∧
      text.toList =
        ((header :: rule :: parts.flatMap Table.Part.lines).flatMap fun line => line ++ ['\n'])
  /-- There is a table but where a name is too wide for one. -/
  printed : (Table.render? m).isSome ↔ Table.Printable m
  overview : List.Forall₂ (OverviewRowAgrees m.languages) (overviewRowsOf (html o m)) m.sharedRows
  owned : ∃ rows : List Row, rows.Perm (m.rows.filter (!·.isShared)) ∧
    List.Forall₂ OwnedBlockAgrees (ownedBlocksOf (html o m)) rows
  breakdown : List.Forall₂ (BreakdownBlockAgrees m.languages) (breakdownBlocksOf (html o m)) m.rows
  cards : (cardsOf (html o m)).length = m.languages.length
  /-- The card of a language counts the scenarios of what the overview marks in its column. -/
  numerators : ∀ (column : Nat) (l : Language), m.languages[column]? = some l →
    ∃ card value total, (cardsOf (html o m))[column]? = some card ∧
      textsOfAll [card] = [l.label, value,
        toString (markedScenarios ((overviewRowsOf (html o m)).zip m.sharedRows) column) ++ " / " ++
          toString (total : Nat) ++ " scenarios"]

section

variable {o : Options} {m : Matrix}

theorem overviewRowsOf_html (hshown : m.isEmpty = false) (hlisted : m.listedRows = m.rows) :
    overviewRowsOf (html o m) = m.sharedRows.map fun r =>
      (OverviewRow.ofRow m.languages r).element := by
  rw [overviewRowsOf, rows_overviewPanel hshown hlisted]
  rfl

theorem cardsOf_html (hshown : m.isEmpty = false)
    (hsummaries : m.summaries = m.languages.map (.ofRows m.rows)) :
    cardsOf (html o m) = m.languages.map fun l =>
      (SummaryCard.ofSummary (.ofRows m.rows l)).element := by
  rw [cardsOf, elementsOfAll_overviewPanel hshown, cards_overviewTab, View.ofMatrix, hsummaries,
    List.map_map, List.map_map]
  rfl

theorem ownedBlocksOf_html (hshown : m.isEmpty = false) :
    ownedBlocksOf (html o m) =
      (ownersOf m.languages m.ownedRows).flatMap fun l =>
        (m.ownedBy l).map fun r => (OwnedFeature.ofRow l r).element := by
  have hpanel : blocksOf (panel "language-tab" (html o m)) =
      blocksOf (ownedTab (.ofMatrix o.linkBase? m)) :=
    elementsOfAll_ownedPanel hshown
  rw [ownedBlocksOf, hpanel, blocksOf_ownedTab, owned_ofMatrix]
  simp [List.flatMap_map, List.map_flatMap, Function.comp_def]

theorem markedScenarios_ofRow {axis : List Language} {column : Nat} {l : Language}
    (hl : axis[column]? = some l) (rows : List Row) :
    markedScenarios ((rows.map fun r => (OverviewRow.ofRow axis r).element).zip rows) column =
      scenarioCount (rows.filter (·.isImplementedFor l)) := by
  induction rows with
  | nil => rfl
  | cons r rows ih =>
    have hmarked : marked (OverviewRow.ofRow axis r).element column = r.isImplementedFor l := by
      rw [Bool.eq_iff_iff, (overviewRowAgrees_ofRow axis r).marks column l hl,
        Table.shows_pass_iff]
    unfold markedScenarios at ih ⊢
    rw [List.map_cons, List.zip_cons_cons, List.filter_cons, List.filter_cons, hmarked]
    split
    · rw [List.map_cons, List.sum_cons, ih, scenarioCount_cons]
    · exact ih

/-- What the agreement rests on: rows in the order of their folders, clean results, and summaries of
the rows. -/
theorem viewsAgree_of_clean (hshown : m.isEmpty = false) (hlisted : m.listedRows = m.rows)
    (haxis : m.languages.Nodup) (hsummaries : m.summaries = m.languages.map (.ofRows m.rows))
    (hclean : ∀ r ∈ m.rows, ∀ l res, r.result? l = some res →
      res.Clean r.feature.scenarioNames) : ViewsAgree o m where
  table := by
    intro text htext
    obtain ⟨-, rfl⟩ := (Table.render?_eq_some_iff hshown).1 htext
    exact ⟨_, _, _, _, Table.showsMatrix_parts m, String.toList_ofList⟩
  printed := by
    simp [Option.isSome_iff_exists, Table.render?_eq_some_iff hshown]
  overview := by
    rw [overviewRowsOf_html hshown hlisted]
    exact List.forall₂_map_left_iff.2
      (List.forall₂_same.2 fun r _ => overviewRowAgrees_ofRow m.languages r)
  owned := by
    refine ⟨(ownersOf m.languages m.ownedRows).flatMap m.ownedBy,
      Matrix.flatMap_ownedBy_perm (Matrix.ordersOwners_ownersOf haxis), ?_⟩
    rw [ownedBlocksOf_html hshown]
    refine List.rel_flatMap (R := (· = ·)) (List.forall₂_refl _) ?_
    rintro l _ rfl
    refine List.forall₂_map_left_iff.2 (List.forall₂_same.2 fun r hr => ?_)
    exact ownedBlockAgrees_ofRow (Matrix.owner?_of_mem_ownedBy hr)
  breakdown := by
    rw [breakdownBlocksOf, blocksOf_breakdownPanel hshown hlisted]
    exact List.forall₂_map_left_iff.2
      (List.forall₂_same.2 fun r hr => breakdownBlockAgrees_ofRow (hclean r hr))
  cards := by rw [cardsOf_html hshown hsummaries, List.length_map]
  numerators := by
    intro column l hl
    have hcount : markedScenarios ((overviewRowsOf (html o m)).zip m.sharedRows) column =
        (LanguageSummary.ofRows m.rows l).implemented := by
      rw [overviewRowsOf_html hshown hlisted, markedScenarios_ofRow hl]
      exact (LanguageSummary.ofRows_countsRows m.rows l).implemented.symm
    let card := SummaryCard.ofSummary (.ofRows m.rows l)
    refine ⟨card.element, card.value, card.total, ?_, ?_⟩
    · rw [cardsOf_html hshown hsummaries, List.getElem?_map, hl, Option.map_some]
    · rw [hcount]
      rfl

end

end Page

/-- All views of a built matrix agree, whatever the presentation settings are. A matrix without
features or languages has no pair of them that a view could show. -/
theorem Catalog.matrix_viewsAgree (c : Catalog) (d : Disk) (features : List Feature)
    (verdicts : List FeatureVerdict) (crossReferences : CrossReferences) (o : Page.Options) :
    (c.matrix d features verdicts crossReferences).1.rows = [] ∨
      (c.matrix d features verdicts crossReferences).1.languages = [] ∨
      Page.ViewsAgree o (c.matrix d features verdicts crossReferences).1 := by
  cases hshown : (c.matrix d features verdicts crossReferences).1.isEmpty with
  | true =>
    obtain hrows | hlanguages := Bool.or_eq_true_iff.1 hshown
    · exact .inl (List.isEmpty_iff.1 hrows)
    · exact .inr (.inl (List.isEmpty_iff.1 hlanguages))
  | false =>
    refine .inr (.inr (Page.viewsAgree_of_clean hshown Matrix.build_listedRows
      LanguagePolicy.order_nodup rfl ?_))
    intro r hr l res hres
    obtain ⟨_, _, -, -, hreports⟩ := (row_exact hr).result l res hres
    exact hreports.clean

end SpecCoverage
