-- SUMMARY: The tabs of a report page list all that the matrix has, each thing once, and count it right.
import Mathlib.Algebra.BigOperators.Group.List.Basic
import SpecCoverage.Proofs.InternalLinks
import SpecCoverage.Proofs.Owners

/-!
# What the tabs list

The overview and the tab of single-language features share the rows of a matrix between them, the
breakdown has a block for each row, the tab of a kind one for each of its records, and the tab of
missing pairs an item for each pair. What a tab lists is what stands in its panel on the page: rows,
blocks and items, each told by its link, its id or its texts. What the buttons and the headings say
of their number is read off the page, too.
-/
namespace SpecCoverage

open Markup

/-! ## Parts of tabs -/

namespace Page

/-- The heading of the features of an owner. -/
def ownerHeading (l : Language) (count : Nat) : Markup :=
  plain "h3" [text ("🔒 " ++ l.banner ++ " (" ++ toString count ++ " features)")]

/-- The heading of the pairs of a language. -/
def missingHeading (l : Language) (count : Nat) : Markup :=
  plain "h3" [text (l.label ++ " (" ++ toString count ++ ")")]

/-- What a panel lists in parts, one for each key: a heading, and below it an entry for each item of
the key. The number in the heading is that of the entries below it. -/
structure ListsByKey {κ α : Type} (tag : String) (headingOf : κ → Nat → Markup)
    (Shows : Markup → α → Prop) (items : κ → List α) (content : List Markup) (keys : List κ)
    (parts : List (List Markup)) : Prop where
  headed : elementsOfAll (tagged ["h3", tag]) content =
    (keys.zip parts).flatMap fun (k, entries) => headingOf k entries.length :: entries
  shows : List.Forall₂ (List.Forall₂ Shows) parts (keys.map items)
  all : elementsOfAll (tagged [tag]) content = parts.flatten
  total : (parts.map (·.length)).sum = (elementsOfAll (tagged [tag]) content).length

/-- Entries have another tag than headings, so they are found among the elements of either. -/
theorem listsByKey_of_elements {κ α : Type} {tag : String} {headingOf : κ → Nat → Markup}
    {Shows : Markup → α → Prop} {items : κ → List α} {content : List Markup} {keys : List κ}
    {element : κ → α → Markup}
    (hheading : ∀ k count, meets (tagged [tag]) (headingOf k count) = false)
    (hentry : ∀ k x, meets (tagged [tag]) (element k x) = true)
    (hshows : ∀ k, ∀ x ∈ items k, Shows (element k x) x)
    (h : elementsOfAll (tagged ["h3", tag]) content = keys.flatMap fun k =>
      headingOf k (items k).length :: (items k).map (element k)) :
    ListsByKey tag headingOf Shows items content keys
      (keys.map fun k => (items k).map (element k)) := by
  have hall : elementsOfAll (tagged [tag]) content =
      (keys.map fun k => (items k).map (element k)).flatten := by
    have hweaker : ∀ t attributes, tagged [tag] t attributes = true →
        tagged ["h3", tag] t attributes = true := by
      simp [tagged]
    have hentries (k : κ) : ((items k).map (element k)).filter (meets (tagged [tag])) =
        (items k).map (element k) := by
      refine List.filter_eq_self.2 fun e he => ?_
      obtain ⟨x, -, rfl⟩ := List.mem_map.1 he
      exact hentry k x
    rw [← filter_elementsOfAll hweaker, h, List.filter_flatMap, ← List.flatMap_def]
    refine List.flatMap_congr fun k _ => ?_
    rw [List.filter_cons_of_neg (by simp [hheading]), hentries]
  refine ⟨?_, ?_, hall, ?_⟩
  · simp [h, ← List.map_prod_left_eq_zip, List.flatMap_map]
  · rw [List.forall₂_map_left_iff, List.forall₂_map_right_iff]
    refine List.forall₂_same.2 fun k _ => ?_
    exact List.forall₂_map_left_iff.2 (List.forall₂_same.2 (hshows k))
  · rw [hall, List.length_flatten]

/-- As many entries are listed as there are items. -/
theorem ListsByKey.length_eq {κ α : Type} {tag : String} {headingOf : κ → Nat → Markup}
    {Shows : Markup → α → Prop} {items : κ → List α} {content : List Markup} {keys : List κ}
    {parts : List (List Markup)} (h : ListsByKey tag headingOf Shows items content keys parts) :
    (elementsOfAll (tagged [tag]) content).length = (keys.flatMap items).length := by
  have hlengths : List.Forall₂ (· = ·) (parts.map (·.length)) ((keys.map items).map (·.length)) := by
    rw [List.forall₂_map_left_iff, List.forall₂_map_right_iff]
    exact h.shows.imp fun _ _ => List.Forall₂.length_eq
  rw [List.forall₂_eq_eq_eq] at hlengths
  rw [← h.total, hlengths, List.flatMap_def, List.length_flatten]

/-- Each owner has a heading, and its features below that. -/
theorem sections_ownedTab {v : View} :
    elementsOfAll (tagged ["h3", "details"]) (ownedTab v) = v.owned.flatMap fun s =>
      plain "h3" [text ("🔒 " ++ s.banner ++ " (" ++ toString s.count ++ " features)")] ::
        s.features.map (·.element) := by
  have hscenario (name : String) (tags : List String) :
      elementsOfAll (tagged ["h3", "details"]) (scenarioItem name tags) = [] :=
    elementsOfAll_scenarioItem (by simp [tagged]) (by simp [tagged]) name tags
  have hfeature (f : OwnedFeature) :
      elementsOfAll (tagged ["h3", "details"]) f.html = [f.element] := by
    simp [OwnedFeature.html, OwnedFeature.element, FeatureLink.html, elements_plain,
      elements_classed, tagged, hscenario]
  unfold ownedTab
  split
  · simp_all [heading, paragraph, elements_plain, tagged]
  · simp [heading, OwnerSection.html, hfeature, elements_plain, tagged, List.map_eq_flatMap]

/-- The element that shows a missing pair. -/
def MissingItem.element (i : MissingItem) : Markup :=
  i.html.headD newline

/-- Each language that misses features has a heading, and these features below that. -/
theorem sections_missingTab {v : View} (hcomplete : v.complete = true → v.missing = []) :
    elementsOfAll (tagged ["h3", "li"]) (missingTab v) = v.missing.flatMap fun s =>
      plain "h3" [text (s.language ++ " (" ++ toString s.count ++ ")")] ::
        s.items.map (·.element) := by
  have hitem (i : MissingItem) : elementsOfAll (tagged ["h3", "li"]) i.html = [i.element] := by
    simp [MissingItem.html, MissingItem.element, FeatureLink.html, elements_plain,
      elements_classed, tagged]
  unfold missingTab
  split
  · rename_i h
    simp [heading, paragraph, elements_plain, tagged, hcomplete h]
  · simp [heading, MissingSection.html, hitem, elements_plain, elements_classed, tagged,
      List.map_eq_flatMap]

theorem texts_axisHeaders {axis : List String} : textsOfAll (axisHeaders axis) = axis := by
  induction axis with
  | nil => rfl
  | cons l ls ih => exact congrArg (l :: ·) ih

end Page

/-! ## Numbers of features -/

namespace Matrix

variable {m : Matrix}

theorem sum_lengths_values (owned : SortedMap Language (List Row)) :
    (owned.values.map (·.length)).sum =
      (owned.keys.map fun l => ((owned.get? l).getD []).length).sum := by
  rw [SortedMap.values, SortedMap.keys, List.map_map, List.map_map]
  congr 1
  refine List.map_congr_left fun e he => ?_
  rw [Function.comp_apply, Function.comp_apply, SortedMap.get?_eq_some_iff.2 he]
  rfl

/-- The number in the label of the tab of single-language features is that of all owners' rows. -/
theorem ownedCount_eq {owners : List Language} (h : m.OrdersOwners owners) {base? : Option String} :
    (Page.View.ofMatrix base? m).ownedCount = (owners.map fun l => (m.ownedBy l).length).sum := by
  have hkeys : m.ownedRows.keys.Perm owners := by
    refine (List.perm_ext_iff_of_nodup m.ownedRows.keys_nodup h.nodup).2 fun l => ?_
    rw [h.mem_iff, SortedMap.mem_keys_iff, ← SortedMap.contains, contains_ownedRows]
    exact decide_eq_true_iff
  have hsum := (hkeys.map fun l => (m.ownedBy l).length).sum_eq
  rw [← hsum]
  have hvalues := sum_lengths_values m.ownedRows
  simp only [getD_ownedRows] at hvalues
  exact hvalues

/-! ## Languages that miss features -/

/-- The missing pairs of a language. -/
def missingIn (m : Matrix) (l : Language) : List Missing :=
  m.missing.filter (·.language = l)

/-- The languages of the axis that miss features. -/
def missingLanguages (m : Matrix) : List Language :=
  m.languages.filter fun l => !(m.missingIn l).isEmpty

theorem flatMap_missingLanguages (m : Matrix) :
    m.missingLanguages.flatMap m.missingIn = m.languages.flatMap m.missingIn := by
  unfold missingLanguages
  induction m.languages with
  | nil => rfl
  | cons l ls ih =>
    rw [List.filter_cons, List.flatMap_cons]
    split
    · rw [List.flatMap_cons, ih]
    · simp_all

theorem missingOf_eq (m : Matrix) :
    Page.missingOf m = m.missingLanguages.map fun l =>
      ⟨l.label, (m.missingIn l).length, (m.missingIn l).map .ofMissing⟩ := by
  unfold Page.missingOf missingLanguages
  induction m.languages with
  | nil => rfl
  | cons l ls ih =>
    have hpairs : (m.missing.filter fun e => e.language == l) = m.missingIn l := rfl
    rw [List.filterMap_cons, List.filter_cons, ih, hpairs]
    cases h : m.missingIn l with
    | nil => simp
    | cons e es => simp [h]

/-- The pairs of all languages are all pairs. -/
theorem flatMap_missingIn_perm (haxis : m.languages.Nodup)
    (hmissing : ∀ e ∈ m.missing, e.language ∈ m.languages) :
    (m.missingLanguages.flatMap m.missingIn).Perm m.missing := by
  rw [flatMap_missingLanguages]
  exact flatMap_filter_perm haxis hmissing

end Matrix

/-! ## What each tab lists -/

namespace Page

/-- A row of the overview shows a feature: its first cell holds the link to it. -/
def RowShows (row : Markup) (r : Row) : Prop :=
  row.contents.head? = some (plain "td" [featureLink r.feature])

/-- A block of a single-language feature shows it: its one link is the one to it. -/
def OwnedShows (block : Markup) (r : Row) : Prop :=
  elementsOfAll (tagged ["a"]) [block] = [featureLink r.feature]

/-- A block of a record shows it by its id and description. -/
structure RecordShows (block : Markup) (record : CrossRecord) : Prop where
  anchor : id? block = some record.anchor
  texts : (textsOfAll [block]).take 2 = [record.id, record.description]

/-- A block of the breakdown shows a feature by its title and path. -/
structure BreakdownShows (block : Markup) (r : Row) : Prop where
  anchor : id? block = some (Link.featureAnchor r.feature.path)
  texts : (textsOfAll [block]).take 3 = [r.feature.title, " ", r.feature.path]

/-- An item shows the feature of a missing pair. -/
structure MissingShows (item : Markup) (e : Missing) : Prop where
  link : elementsOfAll (tagged ["a"]) [item] = [linkTo e.featurePath e.featureTitle]
  texts : textsOfAll [item] = [e.featureTitle, " ", e.featurePath]

/-- The tabs of a page list all that the matrix has, each thing once, and their labels tell how much
they list. -/
structure TabsList (m : Matrix) (page : List Markup) : Prop where
  panels : (elementsOfAll isPanel page).map id? = panelIds.map some
  buttons : (elementsOfAll (tagged ["button"]) page).flatMap (valuesOf "data-tab") =
    panelIds.map .text
  overview : ∃ header rows, elementsOfAll isRow (panel "overview-tab" page) = header :: rows ∧
    textsOfAll [header] = "Feature" :: m.languages.map (·.label) ∧
    List.Forall₂ RowShows rows m.sharedRows
  /-- With the shared features, those of the owners are all features. -/
  owned : ∃ owners parts, m.OrdersOwners owners ∧
    ListsByKey "details" ownerHeading OwnedShows m.ownedBy (panel "language-tab" page) owners parts ∧
    (m.sharedRows ++ owners.flatMap m.ownedBy).Perm m.rows
  records : ∀ k : RecordKind,
    List.Forall₂ RecordShows (blocksOf (panel (k.slug ++ "-tab") page)) (recordsOf m k)
  breakdown : List.Forall₂ BreakdownShows (blocksOf (panel "details-tab" page)) m.rows
  missing : ∃ parts,
    ListsByKey "li" missingHeading MissingShows m.missingIn (panel "missing-tab" page)
      m.missingLanguages parts ∧
    (m.missingLanguages.flatMap m.missingIn).Perm m.missing
  /-- What the buttons show. -/
  labels : textsOfAll (elementsOfAll (tagged ["button"]) page) =
    ["📊 Shared Tests",
      "🔒 Language-Specific (" ++
        toString (elementsOfAll (tagged ["details"]) (panel "language-tab" page)).length ++ ")"] ++
    RecordKind.all.map (fun k =>
      "📋 " ++ k.heading ++ " (" ++
        toString (blocksOf (panel (k.slug ++ "-tab") page)).length ++ ")") ++
    ["🔍 Detailed Breakdown",
      "⚠️ Missing Implementations (" ++
        toString (elementsOfAll (tagged ["li"]) (panel "missing-tab" page)).length ++ ")"]

section

variable {o : Options} {m : Matrix}

theorem listsOwned_html (hshown : m.isEmpty = false) :
    ListsByKey "details" ownerHeading OwnedShows m.ownedBy (panel "language-tab" (html o m))
      (ownersOf m.languages m.ownedRows)
      ((ownersOf m.languages m.ownedRows).map fun l =>
        (m.ownedBy l).map fun r => (OwnedFeature.ofRow l r).element) := by
  refine listsByKey_of_elements (fun _ _ => rfl) (fun _ _ => rfl)
    (fun _ _ _ => OwnedFeature.links_element _) ?_
  rw [elementsOfAll_ownedPanel hshown, sections_ownedTab, owned_ofMatrix]
  simp [List.flatMap_map, Function.comp_def, ownerHeading]

theorem missingShows_ofMissing (e : Missing) :
    MissingShows (MissingItem.ofMissing e).element e where
  link := by
    simp [MissingItem.element, MissingItem.html, MissingItem.ofMissing, FeatureLink.html, linkTo,
      elements_plain, elements_classed, tagged]
  texts := rfl

theorem listsMissing_html (hshown : m.isEmpty = false) :
    ListsByKey "li" missingHeading MissingShows m.missingIn (panel "missing-tab" (html o m))
      m.missingLanguages
      (m.missingLanguages.map fun l =>
        (m.missingIn l).map fun e => (MissingItem.ofMissing e).element) := by
  have hsections : (View.ofMatrix o.linkBase? m).missing = m.missingLanguages.map fun l =>
      ⟨l.label, (m.missingIn l).length, (m.missingIn l).map .ofMissing⟩ :=
    Matrix.missingOf_eq m
  refine listsByKey_of_elements (fun _ _ => rfl) (fun _ _ => rfl)
    (fun _ e _ => missingShows_ofMissing e) ?_
  rw [elementsOfAll_missingPanel hshown, sections_missingTab missing_ofMatrix_of_complete,
    hsections]
  simp [List.flatMap_map, Function.comp_def, missingHeading]

theorem blocksOf_recordPanel (hshown : m.isEmpty = false) (k : RecordKind) :
    blocksOf (panel (k.slug ++ "-tab") (html o m)) = (recordsOf m k).map (recordBlock o) := by
  have hpanel : blocksOf (panel (k.slug ++ "-tab") (html o m)) = blocksOf (RecordTab.html
      ⟨k, (recordsOf m k).length, (recordsOf m k).map (.ofRecord o.linkBase?)⟩) :=
    elementsOfAll_recordPanel hshown k
  rw [hpanel, blocksOf_recordTab, List.map_map]
  rfl

theorem tabsList_html (hshown : m.isEmpty = false) (hlisted : m.listedRows = m.rows)
    (haxis : m.languages.Nodup) (hmissing : ∀ e ∈ m.missing, e.language ∈ m.languages) :
    TabsList m (html o m) where
  panels := by
    rw [panels_html hshown, ← tabs_escaped_ids o.linkBase? m]
    rfl
  buttons := by
    rw [buttons_html hshown, ← tabs_ids o.linkBase? m]
    rfl
  overview := by
    refine ⟨_, _, rows_overviewPanel hshown hlisted, ?_, ?_⟩
    · simp [textsOfAll, texts, plain, text, texts_axisHeaders]
    · exact List.forall₂_map_left_iff.2 (List.forall₂_same.2 fun _ _ => rfl)
  owned := ⟨_, _, Matrix.ordersOwners_ownersOf haxis, listsOwned_html hshown,
    Matrix.sharedRows_append_owned_perm (Matrix.ordersOwners_ownersOf haxis)⟩
  records := by
    intro k
    rw [blocksOf_recordPanel hshown k]
    exact List.forall₂_map_left_iff.2 (List.forall₂_same.2 fun _ _ => ⟨rfl, rfl⟩)
  breakdown := by
    rw [blocksOf_breakdownPanel hshown hlisted]
    exact List.forall₂_map_left_iff.2 (List.forall₂_same.2 fun _ _ => ⟨rfl, rfl⟩)
  missing := ⟨_, listsMissing_html hshown, Matrix.flatMap_missingIn_perm haxis hmissing⟩
  labels := by
    have howned : (View.ofMatrix o.linkBase? m).ownedCount =
        (elementsOfAll (tagged ["details"]) (panel "language-tab" (html o m))).length := by
      rw [(listsOwned_html hshown).length_eq, List.length_flatMap,
        Matrix.ownedCount_eq (Matrix.ordersOwners_ownersOf haxis)]
    have hpairs : (View.ofMatrix o.linkBase? m).missingCount =
        (elementsOfAll (tagged ["li"]) (panel "missing-tab" (html o m))).length := by
      rw [(listsMissing_html hshown).length_eq,
        (Matrix.flatMap_missingIn_perm haxis hmissing).length_eq]
      rfl
    have hrecords (k : RecordKind) : (recordsOf m k).length =
        (blocksOf (panel (k.slug ++ "-tab") (html o m))).length := by
      rw [blocksOf_recordPanel hshown k, List.length_map]
    have htexts : textsOfAll (elementsOfAll (tagged ["button"]) (html o m)) =
        (tabs (.ofMatrix o.linkBase? m)).map (·.label) := by
      rw [buttons_html hshown]
      rfl
    rw [htexts, tabs, ← howned, ← hpairs]
    simp only [← hrecords]
    rfl

end

end Page

/-- The page of a built matrix that has rows and languages lists all that the matrix has. -/
theorem Catalog.matrix_tabsList (c : Catalog) (d : Disk) (features : List Feature)
    (verdicts : List FeatureVerdict) (crossReferences : CrossReferences) (o : Page.Options)
    (hshown : (c.matrix d features verdicts crossReferences).1.isEmpty = false) :
    Page.TabsList (c.matrix d features verdicts crossReferences).1
      (Page.html o (c.matrix d features verdicts crossReferences).1) := by
  refine Page.tabsList_html hshown Matrix.build_listedRows LanguagePolicy.order_nodup ?_
  intro e he
  obtain ⟨r, -, l, hl, -, -, rfl⟩ := Missing.mem_ofRows.1 he
  exact hl

theorem Catalog.matrix_tabsList_logins :
    ((start ⟨"/w"⟩ .default).matrix ⟨[], [], 0⟩ [.userLogin, .adminLogin] [.userLogin]
        ∅).1.isEmpty = false ∧
      Page.TabsList
        ((start ⟨"/w"⟩ .default).matrix ⟨[], [], 0⟩ [.userLogin, .adminLogin] [.userLogin] ∅).1
        (Page.html .default ((start ⟨"/w"⟩ .default).matrix ⟨[], [], 0⟩
          [.userLogin, .adminLogin] [.userLogin] ∅).1) := by
  have hshown : ((start ⟨"/w"⟩ .default).matrix ⟨[], [], 0⟩ [.userLogin, .adminLogin]
      [.userLogin] ∅).1.isEmpty = false :=
    Matrix.build_isEmpty_of_joined List.mem_cons_self (l := ⟨"go"⟩) rfl rfl
  exact ⟨hshown, matrix_tabsList _ _ _ _ _ _ hshown⟩

end SpecCoverage
