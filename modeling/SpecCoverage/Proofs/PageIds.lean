-- SUMMARY: When the ids of a report page are distinct: just when the slugs of its paths and identifiers are.
import Mathlib.Data.List.Perm.Basic
import SpecCoverage.Proofs.InternalLinks
import SpecCoverage.Proofs.JoinDependence

/-!
# Ids of a page

A page gives ids to its panels, to the blocks of features and to the blocks of records. The id of a
block is a slug of the path or identifier behind a word for what it is, and a slug forgets case and
all signs. So the ids of a page are distinct just when the slugs are, and when no record has the
slug that the panel of its kind uses (`SlugsApart`).
-/
namespace SpecCoverage

open Markup

/-! ## Slugs -/

/-- Letters and digits of a text in lower case, every other character a hyphen. -/
def slugOf (s : String) : String :=
  String.ofList (s.toList.map fun c =>
    if Text.isAsciiAlphanumeric c then Text.lowerChar c else '-')

theorem Link.featureAnchor_eq (path : String) : featureAnchor path = "feature-" ++ slugOf path :=
  rfl

theorem anchorFor_eq (k : RecordKind) (id : String) :
    anchorFor k id = k.slug ++ "-" ++ slugOf id :=
  rfl

theorem Link.featureAnchor_eq_iff {p q : String} :
    featureAnchor p = featureAnchor q ↔ slugOf p = slugOf q := by
  rw [featureAnchor_eq, featureAnchor_eq]
  simp

theorem anchorFor_eq_iff {k l : RecordKind} {s t : String} :
    anchorFor k s = anchorFor l t ↔ (k, slugOf s) = (l, slugOf t) := by
  rw [anchorFor_eq, anchorFor_eq]
  cases k <;> cases l <;> simp [RecordKind.slug, String.ext_iff]

theorem anchorFor_ne_featureAnchor (k : RecordKind) (id path : String) :
    anchorFor k id ≠ Link.featureAnchor path := by
  rw [anchorFor_eq, Link.featureAnchor_eq]
  cases k <;> simp [RecordKind.slug, String.ext_iff]

namespace Markup

variable {ms ns : List Markup} {a : String} {e : Markup}

/-! ## One block for an id -/

theorem length_withId : (withId a ms).length = (idsOf ms).count a := by
  unfold withId idsOf
  induction blocksOf ms with
  | nil => rfl
  | cons e es ih =>
    rw [List.filter_cons, List.filterMap_cons]
    cases h : e.id? with
    | none => simpa [h] using ih
    | some b => by_cases hb : b = a <;> simp [hb, ih]

/-- Where ids are distinct, a block is the only one with its id. -/
theorem withId_eq_singleton (h : (idsOf ms).Nodup) (he : e ∈ withId a ms) : withId a ms = [e] := by
  have hlength : (withId a ms).length ≤ 1 := by
    rw [length_withId]
    exact List.nodup_iff_count_le_one.1 h a
  generalize withId a ms = es at he hlength
  match es, hlength with
  | [], _ => cases he
  | [f], _ => rw [List.mem_singleton.1 he]

end Markup

namespace Page

/-! ## The ids of a page -/

theorem idsOf_overviewTab {v : View} : idsOf (overviewTab v) = [] := by
  rw [idsOf, blocksOf_overviewTab, List.filterMap_nil]

theorem idsOf_ownedTab {v : View} : idsOf (ownedTab v) = [] := by
  rw [idsOf, blocksOf_ownedTab]
  simp [OwnedFeature.id?_element]

theorem idsOf_recordTab {t : RecordTab} : idsOf t.html = t.blocks.map (·.anchor) := by
  rw [idsOf, blocksOf_recordTab, List.filterMap_map]
  exact congrFun List.filterMap_eq_map t.blocks

theorem idsOf_breakdownTab {v : View} : idsOf (breakdownTab v) = v.blocks.map (·.link.anchor) := by
  rw [idsOf, blocksOf_breakdownTab, ← View.blocks, List.filterMap_map]
  exact congrFun List.filterMap_eq_map v.blocks

theorem idsOf_missingTab {v : View} : idsOf (missingTab v) = [] := by
  rw [idsOf, blocksOf_missingTab, List.filterMap_nil]

/-- A panel is named like a record just when the record is called what panels are called. -/
theorem anchorFor_mem_panelIds {k : RecordKind} {id : String} :
    anchorFor k id ∈ panelIds ↔ slugOf id = "tab" := by
  rw [anchorFor_eq]
  cases k <;> simp [panelIds, RecordKind.slug, String.ext_iff]

theorem featureAnchor_notMem_panelIds (path : String) : Link.featureAnchor path ∉ panelIds := by
  rw [Link.featureAnchor_eq]
  simp [panelIds, String.ext_iff]

/-- The ids of a body are those of the panels and those inside them. -/
theorem idsOf_body_perm {title : String} {v : View} :
    (idsOf (body title v)).Perm
      ((tabs v).map (escape ·.id) ++ (tabs v).flatMap fun t => idsOf t.content) := by
  have hbody : idsOf (body title v) =
      (tabs v).zipIdx.flatMap fun t => escape t.1.id :: idsOf t.1.content := by
    rw [idsOf, blocksOf_body, List.filterMap_flatMap]
    simp [Tab.id?_element, idsOf]
  rw [hbody, flatMap_zipIdx (fun t : Tab => escape t.id :: idsOf t.content)]
  exact (List.map_append_flatMap_perm (tabs v) _ _).symm

variable {o : Options} {m : Matrix}

/-- A page that shows anything has the ids of its panels, of the records and of the features. -/
theorem idsOf_html_perm (hlisted : m.listedRows = m.rows) (hshown : m.isEmpty = false) :
    (idsOf (html o m)).Perm
      (panelIds ++ (m.listedRecords.map (·.anchor) ++
        m.rows.map fun r => Link.featureAnchor r.feature.path)) := by
  have hids : idsOf (html o m) = idsOf (body o.title (.ofMatrix o.linkBase? m)) := by
    have hv : View.ofMatrix o.linkBase? m ∈ view? o m := mem_view?_iff.2 ⟨hshown, rfl⟩
    rw [idsOf, blocksOf_html_of_view? hv, idsOf]
  have hpanels : (tabs (.ofMatrix o.linkBase? m)).map (escape ·.id) = panelIds := by
    have hescaped : panelIds.map escape = panelIds := by decide
    rw [← hescaped]
    rfl
  have hrecords : (((View.ofMatrix o.linkBase? m).records.map (·.tab)).flatMap fun t =>
      idsOf t.content) = m.listedRecords.map (·.anchor) := by
    rw [View.ofMatrix, Matrix.listedRecords, recordsIn, List.map_map, List.flatMap_map,
      List.map_flatMap]
    refine List.flatMap_congr fun k _ => ?_
    exact idsOf_recordTab.trans List.map_map
  have hblocks : idsOf (breakdownTab (.ofMatrix o.linkBase? m)) =
      m.rows.map fun r => Link.featureAnchor r.feature.path := by
    rw [idsOf_breakdownTab, blocks_ofMatrix hlisted, List.map_map]
    rfl
  have hcontents : ((tabs (.ofMatrix o.linkBase? m)).flatMap fun t => idsOf t.content) =
      m.listedRecords.map (·.anchor) ++
        m.rows.map fun r => Link.featureAnchor r.feature.path := by
    rw [tabs, List.flatMap_append, List.flatMap_append, hrecords]
    simp [idsOf_overviewTab, idsOf_ownedTab, idsOf_missingTab, hblocks]
  rw [hids, ← hpanels, ← hcontents]
  exact idsOf_body_perm

/-! ## When ids are distinct -/

/-- No two features and no two records of a kind have one slug, and no record has that of a
panel. -/
structure SlugsApart (features : List Feature) (records : List CrossRecord) : Prop where
  feature_slugs : (features.map fun f => slugOf f.path).Nodup
  record_slugs : (records.map fun r => (r.kind, slugOf r.id)).Nodup
  panels : ∀ r ∈ records, slugOf r.id ≠ "tab"

/-- The ids of a page are distinct, and each link to a part of the page leads to the block of its own
feature or record alone. -/
structure IdsApart (o : Options) (m : Matrix) : Prop where
  nodup : (idsOf (html o m)).Nodup
  feature : ∀ v ∈ view? o m, ∀ r ∈ m.rows,
    withId (Link.featureAnchor r.feature.path) (html o m) = [featureBlock o m r]
  record : ∀ v ∈ view? o m, ∀ r ∈ m.listedRecords, withId r.anchor (html o m) = [recordBlock o r]

theorem nodup_featureAnchors_iff {rows : List Row} :
    (rows.map fun r => Link.featureAnchor r.feature.path).Nodup ↔
      ((rows.map (·.feature)).map fun f => slugOf f.path).Nodup := by
  simp only [List.map_map, List.Nodup, List.pairwise_map, ne_eq, Link.featureAnchor_eq_iff,
    Function.comp_apply]

theorem nodup_anchors_iff {records : List CrossRecord} :
    (records.map (·.anchor)).Nodup ↔ (records.map fun r => (r.kind, slugOf r.id)).Nodup := by
  simp only [List.Nodup, List.pairwise_map, ne_eq, CrossRecord.anchor, anchorFor_eq_iff]

theorem idsOf_html_nodup_iff (hlisted : m.listedRows = m.rows) (hshown : m.isEmpty = false) :
    (idsOf (html o m)).Nodup ↔ SlugsApart (m.rows.map (·.feature)) m.listedRecords := by
  rw [(idsOf_html_perm hlisted hshown).nodup_iff, List.nodup_append', List.nodup_append',
    nodup_anchors_iff, nodup_featureAnchors_iff]
  constructor
  · rintro ⟨-, ⟨hrecords, hfeatures, -⟩, hpanels⟩
    refine ⟨hfeatures, hrecords, fun r hr htab => ?_⟩
    have hanchor : r.anchor ∈ panelIds := anchorFor_mem_panelIds.2 htab
    exact hpanels hanchor (List.mem_append_left _ (List.mem_map_of_mem hr))
  · rintro ⟨hfeatures, hrecords, hpanels⟩
    refine ⟨panelIds_nodup, ⟨hrecords, hfeatures, ?_⟩, ?_⟩
    · intro a ha hb
      obtain ⟨record, -, rfl⟩ := List.mem_map.1 ha
      obtain ⟨r, -, hr⟩ := List.mem_map.1 hb
      exact anchorFor_ne_featureAnchor _ _ _ hr.symm
    · intro a ha hb
      obtain hb | hb := List.mem_append.1 hb
      · obtain ⟨record, hrecord, rfl⟩ := List.mem_map.1 hb
        exact hpanels record hrecord (anchorFor_mem_panelIds.1 ha)
      · obtain ⟨r, -, rfl⟩ := List.mem_map.1 hb
        exact featureAnchor_notMem_panelIds _ ha

/-- Where the ids of a page are distinct, nothing else has the id of a block that it shows. -/
theorem idsApart_of_nodup (hlisted : m.listedRows = m.rows) (h : (idsOf (html o m)).Nodup) :
    IdsApart o m where
  nodup := h
  feature := by
    intro v hv r hr
    obtain rfl := eq_ofMatrix_of_view? hv
    obtain ⟨t, ht, hcontent⟩ := breakdownTab_mem_tabs
    refine withId_eq_singleton h (mem_withId_html hv ht ?_)
    rw [hcontent]
    exact featureBlock_mem_withId hlisted hr
  record := by
    intro v hv record hrecord
    obtain rfl := eq_ofMatrix_of_view? hv
    obtain ⟨t, ht, he⟩ := recordBlock_mem_withId hrecord
    exact withId_eq_singleton h (mem_withId_html hv (recordTab_mem_tabs ht) he)

theorem idsApart_iff (hlisted : m.listedRows = m.rows) :
    IdsApart o m ↔
      m.isEmpty = true ∨ SlugsApart (m.rows.map (·.feature)) m.listedRecords := by
  have hnodup : IdsApart o m ↔ (idsOf (html o m)).Nodup :=
    ⟨IdsApart.nodup, idsApart_of_nodup hlisted⟩
  rw [hnodup]
  cases hshown : m.isEmpty with
  | true =>
    have hids : idsOf (html o m) = [] := by
      rw [idsOf, blocksOf_html, hshown]
      rfl
    rw [hids]
    exact iff_of_true List.nodup_nil (.inl rfl)
  | false =>
    simp only [Bool.false_eq_true, false_or]
    exact idsOf_html_nodup_iff hlisted hshown

end Page

/-! ## Built matrices -/

theorem recordsIn_sorted_perm (x : CrossReferences) :
    (recordsIn (x.mapValues fun _ rs => rs.mergeSort Matrix.recordBefore)).Perm (recordsIn x) := by
  refine List.Perm.flatMap_left _ fun k _ => ?_
  rw [SortedMap.get?_mapValues]
  cases x.get? k with
  | none => exact .nil
  | some rs => exact List.mergeSort_perm rs _

/-- Slugs are apart in whatever order features and records stand. -/
theorem Page.SlugsApart.congr {fs gs : List Feature} {rs ss : List CrossRecord} (hf : fs.Perm gs)
    (hr : rs.Perm ss) (h : SlugsApart fs rs) : SlugsApart gs ss where
  feature_slugs := (hf.map _).nodup_iff.1 h.feature_slugs
  record_slugs := (hr.map _).nodup_iff.1 h.record_slugs
  panels := fun r hmem => h.panels r (hr.mem_iff.2 hmem)

namespace Catalog

section

variable {c : Catalog} {d : Disk} {features : List Feature} {verdicts : List FeatureVerdict}
  {crossReferences : CrossReferences}

theorem slugsApart_matrix_iff :
    Page.SlugsApart ((c.matrix d features verdicts crossReferences).1.rows.map (·.feature))
        (c.matrix d features verdicts crossReferences).1.listedRecords ↔
      Page.SlugsApart features (recordsIn crossReferences) := by
  have hfeatures : ((c.matrix d features verdicts crossReferences).1.rows.map (·.feature)).Perm
      features := by
    rw [matrix, Matrix.build_features]
    exact List.mergeSort_perm features _
  have hrecords : (c.matrix d features verdicts crossReferences).1.listedRecords.Perm
      (recordsIn crossReferences) :=
    recordsIn_sorted_perm crossReferences
  exact ⟨.congr hfeatures hrecords, .congr hfeatures.symm hrecords.symm⟩

end

/-- The ids of the page of a built matrix are distinct just when the page shows nothing or the slugs
of the features and records that the matrix is built from are apart. -/
theorem matrix_idsApart_iff (c : Catalog) (d : Disk) (features : List Feature)
    (verdicts : List FeatureVerdict) (crossReferences : CrossReferences) (o : Page.Options) :
    Page.IdsApart o (c.matrix d features verdicts crossReferences).1 ↔
      (c.matrix d features verdicts crossReferences).1.isEmpty = true ∨
        Page.SlugsApart features (recordsIn crossReferences) :=
  (Page.idsApart_iff Matrix.build_listedRows).trans (or_congr_right slugsApart_matrix_iff)

/-- A feature in a file whose path has the slug of that of `userLogin`. -/
def unfiledLogin : Feature :=
  { Feature.userLogin with path := "user-login.feature", folder := Folder.unfiled }

/-- The page of features and records, with a verdict for `userLogin`. -/
def loginPage (features : List Feature) (ids : List String) : List Markup :=
  Page.html .default
    ((start ⟨"/w"⟩ .default).matrix ⟨[], [], 0⟩ features [.userLogin] (tokenRecords ids)).1

theorem slugsApart_of_loginPage {features : List Feature} {ids : List String}
    (hf : .userLogin ∈ features) (h : (idsOf (loginPage features ids)).Nodup) :
    Page.SlugsApart features (recordsIn (tokenRecords ids)) := by
  have hshown : ((start ⟨"/w"⟩ .default).matrix ⟨[], [], 0⟩ features [.userLogin]
      (tokenRecords ids)).1.isEmpty = false :=
    Matrix.build_isEmpty_of_joined (l := ⟨"go"⟩) hf rfl rfl
  exact slugsApart_matrix_iff.1 ((Page.idsOf_html_nodup_iff Matrix.build_listedRows hshown).1 h)

/-- Two features of different paths, two records of different identifiers, and a record and a panel
share an id. -/
theorem not_idsOf_nodup_logins :
    (([.userLogin, unfiledLogin].map (·.path)).Nodup ∧ DistinctIds (tokenRecords []) ∧
      ¬ (idsOf (loginPage [.userLogin, unfiledLogin] [])).Nodup) ∧
    (([Feature.userLogin].map (·.path)).Nodup ∧ DistinctIds (tokenRecords ["BC#1", "BC-1"]) ∧
      ¬ (idsOf (loginPage [.userLogin] ["BC#1", "BC-1"])).Nodup) ∧
    ([Feature.userLogin].map (·.path)).Nodup ∧ DistinctIds (tokenRecords ["tab"]) ∧
      ¬ (idsOf (loginPage [.userLogin] ["tab"])).Nodup := by
  refine ⟨⟨by decide, distinctIds_tokenRecords_of_nodup (by decide), fun h => ?_⟩,
    ⟨by decide, distinctIds_tokenRecords_of_nodup (by decide), fun h => ?_⟩,
    by decide, distinctIds_tokenRecords_of_nodup (by decide), fun h => ?_⟩
  · have hapart := slugsApart_of_loginPage List.mem_cons_self h
    exact absurd hapart.feature_slugs (by decide)
  · have hapart := slugsApart_of_loginPage List.mem_cons_self h
    exact absurd hapart.record_slugs (by decide)
  · have hapart := slugsApart_of_loginPage List.mem_cons_self h
    exact absurd hapart.panels (by decide)

end Catalog

end SpecCoverage
