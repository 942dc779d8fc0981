-- SUMMARY: The matrix depends on features and report only through the verdicts that the features are joined to.
import SpecCoverage.Proofs.FullRank

/-!
# What the matrix depends on

Features and records are sorted before anything is done with them, and of the report a feature sees
the languages of its verdict alone. So neither the order of the inputs matters nor what the report
says of features that are not in the catalog.
-/
namespace SpecCoverage

variable {σ : Type} {find : LineFinder σ}

/-! ## Sorting -/

/-- Features with different paths have one order. -/
theorem Matrix.mergeSort_features_congr {features features' : List Feature}
    (hperm : features.Perm features') (hpaths : (features.map (·.path)).Nodup) :
    features.mergeSort featureBefore = features'.mergeSort featureBefore := by
  apply mergeSort_isLE_congr (compareLex (compareOn Feature.folder) (compareOn Feature.path)) hperm
  intro f hf g hg heq
  have hthen : (compare f.folder g.folder).then (compare f.path g.path) = .eq := heq
  have hpath : f.path = g.path := Std.LawfulEqCmp.eq_of_compare (Ordering.then_eq_eq.1 hthen).2
  exact List.inj_on_of_nodup_map hpaths hf hg hpath

/-- Records with different identifiers have one order. -/
theorem Matrix.mergeSort_records_congr {rs ss : List CrossRecord} (hperm : rs.Perm ss)
    (hids : (rs.map (·.id)).Nodup) :
    rs.mergeSort recordBefore = ss.mergeSort recordBefore := by
  apply mergeSort_isLE_congr (compareOn CrossRecord.id) hperm
  intro r hr s hs heq
  have hid : r.id = s.id := Std.LawfulEqCmp.eq_of_compare heq
  exact List.inj_on_of_nodup_map hids hr hs hid

/-- The cross references of every kind with their records in the order of the identifiers. -/
def sortRecords (x : CrossReferences) : CrossReferences :=
  x.mapValues fun _ rs => rs.mergeSort Matrix.recordBefore

/-- Each kind is listed in both or in neither, with the same records up to their order. -/
def SameRecords (x y : CrossReferences) : Prop :=
  ∀ k, Option.Rel List.Perm (x.get? k) (y.get? k)

/-- No two records of a kind have one identifier. -/
def DistinctIds (x : CrossReferences) : Prop :=
  ∀ k rs, x.get? k = some rs → (rs.map (·.id)).Nodup

theorem sortRecords_congr {x y : CrossReferences} (h : SameRecords x y) (hids : DistinctIds x) :
    sortRecords x = sortRecords y := by
  refine SortedMap.ext_get? fun k => ?_
  rw [sortRecords, sortRecords, SortedMap.get?_mapValues, SortedMap.get?_mapValues]
  have hk := h k
  have hidsk := hids k
  generalize x.get? k = rs? at hk hidsk
  generalize y.get? k = ss? at hk
  cases hk with
  | none => rfl
  | some hperm =>
    rw [Option.map_some, Option.map_some, Matrix.mergeSort_records_congr hperm (hidsk _ rfl)]

/-! ## Building -/

/-- Do the reports join a feature to verdicts of the same languages, or to none? -/
def JoinAlike (verdicts verdicts' : List FeatureVerdict) (f : Feature) : Prop :=
  (FeatureVerdict.joined? verdicts f).map (·.languages) =
    (FeatureVerdict.joined? verdicts' f).map (·.languages)

theorem resultFor_congr {verdict? verdict'? : Option FeatureVerdict}
    (h : verdict?.map (·.languages) = verdict'?.map (·.languages)) (f : Feature) (l : Language) :
    resultFor find f verdict? l = resultFor find f verdict'? l := by
  have hlanguage (v? : Option FeatureVerdict) :
      v?.bind (·.languages.get? l) = (v?.map (·.languages)).bind (·.get? l) := by
    cases v? <;> rfl
  rw [resultFor, resultFor, hlanguage, hlanguage, h]

namespace Matrix

variable {policy : LanguagePolicy} {verdicts verdicts' : List FeatureVerdict}

theorem rowOf_congr {f : Feature} (h : JoinAlike verdicts verdicts' f) (axis : List Language)
    (records : List CrossRecord) :
    rowOf find axis records (.ofVerdicts verdicts) f =
      rowOf find axis records (.ofVerdicts verdicts') f := by
  have hresult : resultFor find f (FeatureVerdict.joined? verdicts f) =
      resultFor find f (FeatureVerdict.joined? verdicts' f) :=
    funext fun l => resultFor_congr h f l
  rw [rowOf, rowOf, VerdictIndex.lookup?_ofVerdicts, VerdictIndex.lookup?_ofVerdicts, entriesFor,
    entriesFor, hresult]

theorem axisOf_congr {features : List Feature}
    (h : ∀ f ∈ features, JoinAlike verdicts verdicts' f) :
    axisOf policy (.ofVerdicts verdicts) features =
      axisOf policy (.ofVerdicts verdicts') features := by
  have hkeys (vs : List FeatureVerdict) :
      (features.filterMap (VerdictIndex.ofVerdicts vs).lookup?).flatMap (·.languages.keys) =
        (features.filterMap fun f =>
          (FeatureVerdict.joined? vs f).map (·.languages)).flatMap (·.keys) := by
    rw [← List.map_filterMap, List.flatMap_map]
    simp only [← VerdictIndex.lookup?_ofVerdicts]
  rw [axisOf, axisOf, hkeys, hkeys, List.filterMap_congr h]

/-- Inputs that are the same once sorted, and reports that join each feature alike, give the same
matrix by the same reads of sources. -/
theorem build_congr {features features' : List Feature} {x x' : CrossReferences}
    (hfeatures : features.mergeSort featureBefore = features'.mergeSort featureBefore)
    (hjoin : ∀ f ∈ features, JoinAlike verdicts verdicts' f)
    (hrecords : sortRecords x = sortRecords x') :
    build find policy features verdicts x = build find policy features' verdicts' x' := by
  have hjoin : ∀ f ∈ features'.mergeSort featureBefore, JoinAlike verdicts verdicts' f := by
    intro f hf
    rw [← hfeatures] at hf
    exact hjoin f (List.mem_mergeSort.1 hf)
  have hrows (axis : List Language) (records : List CrossRecord) :
      (features'.mergeSort featureBefore).mapM (rowOf find axis records (.ofVerdicts verdicts)) =
        (features'.mergeSort featureBefore).mapM
          (rowOf find axis records (.ofVerdicts verdicts')) :=
    Traversal.mapM_congr fun f hf => rowOf_congr (hjoin f hf) axis records
  change x.mapValues (fun _ rs => rs.mergeSort recordBefore) =
    x'.mapValues (fun _ rs => rs.mergeSort recordBefore) at hrecords
  simp only [build, hfeatures, hrecords, axisOf_congr hjoin, hrows]

end Matrix

/-! ## Reports that join alike -/

namespace FeatureVerdict

variable {verdicts verdicts' : List FeatureVerdict} {features : List Feature} {f : Feature}

/-- Does the verdict match a feature by path or by file name? -/
def Concerns (v : FeatureVerdict) (features : List Feature) : Prop :=
  ∃ f ∈ features, v.IsAt f ∨ v.SharesStemWith f

instance (v : FeatureVerdict) (features : List Feature) : Decidable (v.Concerns features) :=
  inferInstanceAs (Decidable (∃ f ∈ features, _))

/-- Verdicts for different files of different names are joined alike in any order. -/
theorem joined?_eq_of_perm (hperm : verdicts.Perm verdicts')
    (hpaths : (verdicts.map fun v => normalizePath v.path).Nodup)
    (hstems : (verdicts.map fun v => normalizedStem (normalizePath v.path)).Nodup) :
    joined? verdicts f = joined? verdicts' f := by
  have hpath : verdicts.find? (·.IsAt f) = verdicts'.find? (·.IsAt f) := by
    refine find?_eq_of_perm hperm fun v hv w hw hvf hwf => ?_
    have hvf : v.IsAt f := of_decide_eq_true hvf
    have hwf : w.IsAt f := of_decide_eq_true hwf
    exact List.inj_on_of_nodup_map hpaths hv hw (hvf.trans hwf.symm)
  have hstem : verdicts.find? (·.SharesStemWith f) = verdicts'.find? (·.SharesStemWith f) := by
    refine find?_eq_of_perm hperm fun v hv w hw hvf hwf => ?_
    have hvf : v.SharesStemWith f := of_decide_eq_true hvf
    have hwf : w.SharesStemWith f := of_decide_eq_true hwf
    exact List.inj_on_of_nodup_map hstems hv hw (hvf.trans hwf.symm)
  rw [joined?, joined?, hpath, hstem]

/-- A feature of a list is joined among the verdicts that concern the list. -/
theorem joined?_filter_concerns (hf : f ∈ features) :
    joined? (verdicts.filter (·.Concerns features)) f = joined? verdicts f := by
  have hsearch (p : FeatureVerdict → Bool) (hp : ∀ v, p v → v.Concerns features) :
      (verdicts.filter (·.Concerns features)).find? p = verdicts.find? p := by
    rw [List.find?_filter]
    refine congrArg (verdicts.find? ·) (funext fun v => ?_)
    cases hv : p v with
    | false => simp
    | true => simpa using hp v hv
  rw [joined?, joined?, hsearch, hsearch]
  · intro v hv
    exact ⟨f, hf, .inr (of_decide_eq_true hv)⟩
  · intro v hv
    exact ⟨f, hf, .inl (of_decide_eq_true hv)⟩

end FeatureVerdict

/-! ## The matrix -/

namespace Catalog

/-- The matrix and the reads of sources depend on the features up to order, on the cross references
up to the order of the records of a kind, and on the verdicts through the join alone. So the order
of verdicts for different files of different names does not matter, nor do verdicts, wherever they
stand, that match no feature. -/
theorem matrix_determined_by_join (c : Catalog) (d : Disk) :
    (∀ features features' verdicts verdicts' x x', features.Perm features' →
      (features.map (·.path)).Nodup → (∀ f ∈ features, JoinAlike verdicts verdicts' f) →
      SameRecords x x' → DistinctIds x →
      c.matrix d features verdicts x = c.matrix d features' verdicts' x') ∧
    (∀ features verdicts verdicts' x, verdicts.Perm verdicts' →
      (verdicts.map fun v => normalizePath v.path).Nodup →
      (verdicts.map fun v => normalizedStem (normalizePath v.path)).Nodup →
      c.matrix d features verdicts x = c.matrix d features verdicts' x) ∧
    (∀ features verdicts verdicts' x,
      verdicts.filter (·.Concerns features) = verdicts'.filter (·.Concerns features) →
      c.matrix d features verdicts x = c.matrix d features verdicts' x) := by
  refine ⟨?_, ?_, ?_⟩
  · intro features features' verdicts verdicts' x x' hperm hpaths hjoin hrecords hids
    rw [matrix, matrix, Matrix.build_congr (Matrix.mergeSort_features_congr hperm hpaths) hjoin
      (sortRecords_congr hrecords hids)]
  · intro features verdicts verdicts' x hperm hpaths hstems
    have hjoin : ∀ f ∈ features, JoinAlike verdicts verdicts' f := fun f _ =>
      congrArg (Option.map _) (FeatureVerdict.joined?_eq_of_perm hperm hpaths hstems)
    rw [matrix, matrix, Matrix.build_congr rfl hjoin rfl]
  · intro features verdicts verdicts' x hsame
    have hjoin : ∀ f ∈ features, JoinAlike verdicts verdicts' f := by
      intro f hf
      rw [JoinAlike, ← FeatureVerdict.joined?_filter_concerns hf, hsame,
        FeatureVerdict.joined?_filter_concerns hf]
    rw [matrix, matrix, Matrix.build_congr rfl hjoin rfl]

/-- A verdict for a file that no feature has. -/
def logoutVerdict : FeatureVerdict :=
  ⟨"user/logout.feature", .ofList [(⟨"rust"⟩, ⟨⟨"rust"⟩, true, some "logout.rs", ∅, .pass⟩)]⟩

/-- Two records of one kind in an order. -/
def tokenRecords (ids : List String) : CrossReferences :=
  .ofList [(.breakingChange, ids.map fun id => ⟨.breakingChange, id, "Tokens expire", ∅⟩)]

theorem sameRecords_tokenRecords :
    SameRecords (tokenRecords ["BC#1", "BC#2"]) (tokenRecords ["BC#2", "BC#1"]) := by
  intro k
  cases k with
  | breakingChange => exact .some (.swap ..)
  | behaviorDifference => exact .none

theorem distinctIds_tokenRecords_of_nodup {ids : List String} (h : ids.Nodup) :
    DistinctIds (tokenRecords ids) := by
  intro k rs hrs
  cases k with
  | breakingChange =>
    have hids : (ids.map fun id =>
        (⟨.breakingChange, id, "Tokens expire", ∅⟩ : CrossRecord)).map (·.id) = ids := by
      rw [List.map_map]
      exact List.map_id ids
    rw [← hids] at h
    cases hrs
    exact h
  | behaviorDifference => cases hrs

theorem distinctIds_tokenRecords : DistinctIds (tokenRecords ["BC#1", "BC#2"]) :=
  distinctIds_tokenRecords_of_nodup (by decide)

theorem matrix_determined_by_join_logins :
    (start ⟨"/w"⟩ .default).matrix ⟨[], [], 0⟩ [.userLogin, .adminLogin] [.userLogin]
        (tokenRecords ["BC#1", "BC#2"]) =
      (start ⟨"/w"⟩ .default).matrix ⟨[], [], 0⟩ [.adminLogin, .userLogin]
        [logoutVerdict, .userLogin] (tokenRecords ["BC#2", "BC#1"]) ∧
    (start ⟨"/w"⟩ .default).matrix ⟨[], [], 0⟩ [.userLogin, .adminLogin] [.userLogin, logoutVerdict]
        ∅ =
      (start ⟨"/w"⟩ .default).matrix ⟨[], [], 0⟩ [.userLogin, .adminLogin]
        [logoutVerdict, .userLogin] ∅ ∧
    (start ⟨"/w"⟩ .default).matrix ⟨[], [], 0⟩ [.userLogin, .adminLogin] [.userLogin] ∅ =
      (start ⟨"/w"⟩ .default).matrix ⟨[], [], 0⟩ [.userLogin, .adminLogin]
        [logoutVerdict, .userLogin] ∅ := by
  obtain ⟨hjoin, horder, hothers⟩ := matrix_determined_by_join (start ⟨"/w"⟩ .default) ⟨[], [], 0⟩
  refine ⟨?_, ?_, ?_⟩
  · refine hjoin _ _ _ _ _ _ (.swap ..) (by decide) ?_ sameRecords_tokenRecords
      distinctIds_tokenRecords
    unfold JoinAlike
    decide
  · exact horder _ _ _ _ (.swap ..) (by decide) (by decide)
  · exact hothers _ _ _ _ (by decide)

end Catalog

end SpecCoverage
