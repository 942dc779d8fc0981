-- SUMMARY: Two builds of a matrix, one with a single-language feature more: which parts stay as they were.
import SpecCoverage.Proofs.BridgedMatrix
import SpecCoverage.Proofs.Build
import SpecCoverage.Proofs.RecordLinks

/-!
# A matrix with one more feature

A feature of a single language enters neither summaries nor missing entries. It still brings its
languages onto the axis, and its sources are read between those of other features. Two builds are
run side by side here, with and without it. A line finder says how far the states of the two runs may
be apart and how the lines may change for it (`LineFinder.Simulates`); nothing else can change.
-/
namespace SpecCoverage

/-! ## What stays -/

/-- A change of the lines that are found for the scenarios in a source. -/
abbrev LineChange :=
  (source : String) → (scenarios : List String) → (lines lines' : SortedMap String Nat) → Prop

/-- A result stays, or has other lines for its source. -/
inductive LanguageResult.Kept (change : LineChange) (f : Feature) :
    Option LanguageResult → Option LanguageResult → Prop
  | same (e : Option LanguageResult) : Kept change f e e
  | relined {r : LanguageResult} {p : String} {lines : SortedMap String Nat}
    (hsource : r.sourcePath? = some p) (hlines : change p f.scenarioNames r.lines lines) :
    Kept change f (some r) (some { r with lines := lines })

/-- A row stays on some languages, but for the lines in its sources. -/
structure Row.KeptOn (axis : List Language) (change : LineChange) (r r' : Row) : Prop where
  feature : r'.feature = r.feature
  entry : ∀ l ∈ axis, Option.Rel (LanguageResult.Kept change r.feature) (r.languages.get? l)
    (r'.languages.get? l)
  links : ∀ l ∈ axis, ∀ scenario,
    (r'.links.get? scenario).bind (·.get? l) = (r.links.get? scenario).bind (·.get? l)

/-- A matrix stays on its languages when a feature is added: its axis, summaries and missing entries
in their order, and the rows of the other features but for the lines in their sources. -/
structure Matrix.KeptWith (change : LineChange) (added : Feature) (m m' : Matrix) : Prop where
  languages : m'.languages.filter (· ∈ m.languages) = m.languages
  summaries : m'.summaries.filter (·.language ∈ m.languages) = m.summaries
  missing : m'.missing.filter (·.language ∈ m.languages) = m.missing
  rows : ∃ before r after, m'.rows = before ++ r :: after ∧ r.feature = added ∧
    List.Forall₂ (Row.KeptOn m.languages change) m.rows (before ++ after)

/-! ## Side by side -/

variable {σ : Type} {find : LineFinder σ} {R : σ → σ → Prop} {change : LineChange}
  {sources : List String}

/-- A finder whose states stay related when it searches in both runs, where the lines may change, and
when it searches some sources in the second run alone. -/
structure LineFinder.Simulates (find : LineFinder σ) (R : σ → σ → Prop) (change : LineChange)
    (sources : List String) : Prop where
  both : ∀ p names s s', R s s' →
    (((find p names).run s').1 = ((find p names).run s).1 ∨
      change p names ((find p names).run s).1 ((find p names).run s').1) ∧
    R ((find p names).run s).2 ((find p names).run s').2
  extra : ∀ p ∈ sources, ∀ names s s', R s s' → R s ((find p names).run s').2

/-- The sources that the verdict of a feature names. -/
def FeatureVerdict.sourcesOf (verdicts : List FeatureVerdict) (f : Feature) : List String :=
  ((joined? verdicts f).map fun v => v.languages.values.filterMap (·.sourcePath?)).getD []

theorem FeatureVerdict.mem_sourcesOf {verdicts : List FeatureVerdict} {f : Feature} {p : String} :
    p ∈ sourcesOf verdicts f ↔ ∃ v l w, joined? verdicts f = some v ∧ v.languages.get? l = some w ∧
      w.sourcePath? = some p := by
  unfold sourcesOf
  cases joined? verdicts f with
  | none => simp
  | some v =>
    simp only [Option.map_some, Option.getD_some, List.mem_filterMap, SortedMap.mem_values_iff,
      Option.some.injEq]
    constructor
    · rintro ⟨w, ⟨l, hl⟩, hp⟩
      exact ⟨v, l, w, rfl, hl, hp⟩
    · rintro ⟨_, l, w, rfl, hl, hp⟩
      exact ⟨w, ⟨l, hl⟩, hp⟩

/-! ### Entries -/

/-- In both runs the finder searches the source of a verdict, if it has one. -/
theorem findLines_simulates (hfind : find.Simulates R change sources) (w : LanguageVerdict)
    (scenarios : List String) {s s' : σ} (h : R s s') :
    (((w.findLines find scenarios).run s').1 = ((w.findLines find scenarios).run s).1 ∨
      ∃ p, w.sourcePath? = some p ∧
        change p scenarios ((w.findLines find scenarios).run s).1
          ((w.findLines find scenarios).run s').1) ∧
      R ((w.findLines find scenarios).run s).2 ((w.findLines find scenarios).run s').2 := by
  unfold LanguageVerdict.findLines
  cases w.sourcePath? with
  | none => exact ⟨.inl rfl, h⟩
  | some p =>
    obtain ⟨hfound, hstate⟩ := hfind.both p scenarios s s' h
    exact ⟨hfound.imp_right fun hchange => ⟨p, rfl, hchange⟩, hstate⟩

theorem findLines_extra (hfind : find.Simulates R change sources) {w : LanguageVerdict}
    (hsource : ∀ p, w.sourcePath? = some p → p ∈ sources) (scenarios : List String) {s s' : σ}
    (h : R s s') : R s ((w.findLines find scenarios).run s').2 := by
  unfold LanguageVerdict.findLines
  cases hp : w.sourcePath? with
  | none => exact h
  | some p => exact hfind.extra p (hsource p hp) scenarios s s' h

/-- In both runs a verdict is given the lines that the finder has for it. -/
theorem resultFor_simulates (hfind : find.Simulates R change sources) (f : Feature)
    (verdict? : Option FeatureVerdict) (l : Language) {s s' : σ} (h : R s s') :
    LanguageResult.Kept change f ((resultFor find f verdict? l).run s).1
        ((resultFor find f verdict? l).run s').1 ∧
      R ((resultFor find f verdict? l).run s).2 ((resultFor find f verdict? l).run s').2 := by
  unfold resultFor
  cases verdict?.bind (·.languages.get? l) with
  | none => exact ⟨.same none, h⟩
  | some w =>
    obtain ⟨hfound, hstate⟩ := findLines_simulates hfind w f.scenarioNames h
    refine ⟨?_, hstate⟩
    change LanguageResult.Kept change f
      (some (w.result l f.scenarioNames ((w.findLines find f.scenarioNames).run s).1))
      (some (w.result l f.scenarioNames ((w.findLines find f.scenarioNames).run s').1))
    rcases hfound with hsame | ⟨p, hsource, hchange⟩
    · rw [hsame]
      exact .same _
    · exact .relined (r := w.result l f.scenarioNames _) hsource hchange

/-- In the second run alone a verdict reads one of its sources at most. -/
theorem resultFor_extra (hfind : find.Simulates R change sources) {f : Feature}
    {verdict? : Option FeatureVerdict} {l : Language}
    (hsources : ∀ v w p, verdict? = some v → v.languages.get? l = some w →
      w.sourcePath? = some p → p ∈ sources) {s s' : σ} (h : R s s') :
    R s ((resultFor find f verdict? l).run s').2 := by
  unfold resultFor
  cases hw : verdict?.bind (·.languages.get? l) with
  | none => exact h
  | some w =>
    obtain ⟨v, hv, hl⟩ := Option.bind_eq_some_iff.1 hw
    exact findLines_extra hfind (fun p hp => hsources v w p hv hl hp) f.scenarioNames h

/-- The result of a feature for a language of the axis, under the language. -/
def entryFor (find : LineFinder σ) (f : Feature) (verdict? : Option FeatureVerdict)
    (l : Language) : StateM σ (Language × Option LanguageResult) :=
  do return (l, ← resultFor find f verdict? l)

theorem entriesFor_simulates (hfind : find.Simulates R change sources) (axis : List Language)
    (f : Feature) (verdict? : Option FeatureVerdict) {s s' : σ} (h : R s s') :
    (∀ l, Option.Rel (LanguageResult.Kept change f)
        (((entriesFor find axis f verdict?).run s).1.get? l)
        (((entriesFor find axis f verdict?).run s').1.get? l)) ∧
      R ((entriesFor find axis f verdict?).run s).2 ((entriesFor find axis f verdict?).run s').2 := by
  let entry := entryFor find f verdict?
  obtain ⟨hentries, hstate⟩ := Traversal.mapM_simulates entry entry axis
    (Q := fun e e' => e'.1 = e.1 ∧ LanguageResult.Kept change f e.2 e'.2)
    (fun l _ s s' h => by
      obtain ⟨hresult, hstate⟩ := resultFor_simulates hfind f verdict? l h
      exact ⟨⟨rfl, hresult⟩, hstate⟩) h
  exact ⟨fun l => SortedMap.get?_ofList_rel hentries l, hstate⟩

/-- Languages that a verdict does not have change neither its other entries nor the state. -/
theorem entriesFor_filter (axis : List Language) (f : Feature) {verdict? : Option FeatureVerdict}
    {p : Language → Bool}
    (hlanguages : ∀ v l, verdict? = some v → (v.languages.get? l).isSome → p l = true) (s : σ) :
    (∀ l, p l = true → ((entriesFor find (axis.filter p) f verdict?).run s).1.get? l =
        ((entriesFor find axis f verdict?).run s).1.get? l) ∧
      ((entriesFor find (axis.filter p) f verdict?).run s).2 =
        ((entriesFor find axis f verdict?).run s).2 := by
  let entry := entryFor find f verdict?
  have hskip (l : Language) (s : σ) (hl : p l = false) : ((entry l).run s).2 = s := by
    have hnone : verdict?.bind (·.languages.get? l) = none := by
      apply Option.eq_none_iff_forall_ne_some.2
      intro w hw
      obtain ⟨v, hv, hw⟩ := Option.bind_eq_some_iff.1 hw
      rw [hlanguages v l hv (Option.isSome_iff_exists.2 ⟨w, hw⟩)] at hl
      cases hl
    simp only [entry, entryFor, resultFor, hnone]
    rfl
  have hfilter := Traversal.mapM_filter (f := entry) (q := fun e => p e.1) (fun _ _ => rfl) hskip
    axis s
  constructor
  · intro l hl
    change (SortedMap.ofList (((axis.filter p).mapM entry).run s).1).get? l =
      (SortedMap.ofList ((axis.mapM entry).run s).1).get? l
    rw [hfilter]
    exact SortedMap.get?_ofList_filter hl _
  · change (((axis.filter p).mapM entry).run s).2 = ((axis.mapM entry).run s).2
    rw [hfilter]

/-! ### Rows -/

namespace Matrix

variable {axis axis' : List Language} {records : List CrossRecord} {index : VerdictIndex}

/-- A row on an axis and the row of its feature on a longer one. -/
theorem rowOf_simulates (hfind : find.Simulates R change sources)
    (haxis : axis'.filter (· ∈ axis) = axis) {f : Feature}
    (hlanguages : ∀ v l, index.lookup? f = some v → (v.languages.get? l).isSome → l ∈ axis)
    {s s' : σ} (h : R s s') :
    Row.KeptOn axis change ((rowOf find axis records index f).run s).1
        ((rowOf find axis' records index f).run s').1 ∧
      R ((rowOf find axis records index f).run s).2
        ((rowOf find axis' records index f).run s').2 := by
  obtain ⟨hentries, hstate⟩ := entriesFor_simulates hfind axis f (index.lookup? f) h
  obtain ⟨hkept, hkeptState⟩ := entriesFor_filter axis' f
    (fun v l hv hl => decide_eq_true (hlanguages v l hv hl)) s'
  rw [haxis] at hkept hkeptState
  refine ⟨⟨rfl, ?_, ?_⟩, hkeptState ▸ hstate⟩
  · intro l hl
    have hentry := hentries l
    rw [hkept l (decide_eq_true hl)] at hentry
    exact hentry
  · intro l hl scenario
    have hl' : l ∈ axis' := (List.mem_filter.1 (haxis.symm ▸ hl)).1
    exact (get?_linkTable hl' scenario).trans (get?_linkTable hl scenario).symm

/-- The row of a feature in the second run alone. -/
theorem rowOf_extra {verdicts : List FeatureVerdict} {f : Feature}
    (hfind : find.Simulates R change (FeatureVerdict.sourcesOf verdicts f))
    (axis' : List Language) (records : List CrossRecord) {s s' : σ} (h : R s s') :
    R s ((rowOf find axis' records (.ofVerdicts verdicts) f).run s').2 := by
  let verdict? := (VerdictIndex.ofVerdicts verdicts).lookup? f
  apply Traversal.mapM_keeps (entryFor find f verdict?) axis' (P := R s) _ h
  intro l _ s' h
  apply resultFor_extra hfind _ h
  intro v w p hv hl hp
  have hjoined : FeatureVerdict.joined? verdicts f = some v := by
    rw [← VerdictIndex.lookup?_ofVerdicts]
    exact hv
  exact FeatureVerdict.mem_sourcesOf.2 ⟨v, l, w, hjoined, hl, hp⟩

end Matrix

/-! ## Summaries and missing entries -/

theorem LanguageResult.Kept.any_implemented {f : Feature} {e e' : Option LanguageResult}
    (h : Kept change f e e') : e'.any (·.implemented) = e.any (·.implemented) := by
  cases h <;> rfl

namespace Row

variable {axis : List Language} {r r' : Row} {l : Language}

/-- Where no lines may change a row stays as it was. -/
theorem KeptOn.get?_eq (h : KeptOn axis (fun _ _ _ _ => False) r r') (hl : l ∈ axis) :
    r'.languages.get? l = r.languages.get? l := by
  have hentry := h.entry l hl
  generalize r.languages.get? l = e, r'.languages.get? l = e' at hentry
  cases hentry with
  | none => rfl
  | some hkept =>
    cases hkept with
    | same => rfl
    | relined _ hlines => exact hlines.elim

theorem KeptOn.isShared_eq (h : KeptOn axis change r r') : r'.isShared = r.isShared := by
  rw [isShared, isShared, h.feature]

theorem KeptOn.isImplementedFor_eq (h : KeptOn axis change r r') (hl : l ∈ axis) :
    r'.isImplementedFor l = r.isImplementedFor l := by
  have hentry := h.entry l hl
  unfold isImplementedFor result?
  generalize r.languages.get? l = e, r'.languages.get? l = e' at hentry
  cases hentry with
  | none => rfl
  | some hkept => exact hkept.any_implemented

theorem KeptOn.isMissingFor_eq (h : KeptOn axis change r r') (hl : l ∈ axis) :
    r'.isMissingFor l = r.isMissingFor l := by
  rw [isMissingFor, isMissingFor, h.isImplementedFor_eq hl, h.feature]

end Row

/-- What is selected of two lists and made of it, where elements that stand in one place agree. -/
theorem map_filter_eq_of_forall₂ {α β γ : Type} {Q : α → β → Prop} {xs : List α} {ys : List β}
    {p : α → Bool} {q : β → Bool} {f : α → γ} {g : β → γ} (h : List.Forall₂ Q xs ys)
    (hselect : ∀ a b, Q a b → q b = p a) (hmake : ∀ a b, Q a b → g b = f a) :
    (ys.filter q).map g = (xs.filter p).map f := by
  induction h with
  | nil => rfl
  | @cons a b xs ys hab _ ih =>
    rw [List.filter_cons, List.filter_cons, hselect a b hab]
    split
    · rw [List.map_cons, List.map_cons, hmake a b hab, ih]
    · exact ih

section

variable {axis axis' : List Language} {rows rows' : List Row}

theorem LanguageSummary.ofRows_kept (h : List.Forall₂ (Row.KeptOn axis change) rows rows')
    {l : Language} (hl : l ∈ axis) : ofRows rows' l = ofRows rows l := by
  have hshared : (rows'.filter (·.isShared)).map (·.feature.scenarios.length) =
      (rows.filter (·.isShared)).map (·.feature.scenarios.length) :=
    map_filter_eq_of_forall₂ h (fun _ _ hrow => hrow.isShared_eq)
      fun _ _ hrow => congrArg (·.scenarios.length) hrow.feature
  have himplemented :
      ((rows'.filter (·.isShared)).filter (·.isImplementedFor l)).map
          (·.feature.scenarios.length) =
        ((rows.filter (·.isShared)).filter (·.isImplementedFor l)).map
          (·.feature.scenarios.length) := by
    rw [List.filter_filter, List.filter_filter]
    apply map_filter_eq_of_forall₂ h
    · intro r r' hrow
      rw [hrow.isShared_eq, hrow.isImplementedFor_eq hl]
    · intro r r' hrow
      rw [hrow.feature]
  simp only [ofRows, hshared, himplemented]

theorem Missing.ofRows_kept (h : List.Forall₂ (Row.KeptOn axis change) rows rows')
    (haxis : axis'.filter (· ∈ axis) = axis) :
    (ofRows axis' rows').filter (·.language ∈ axis) = ofRows axis rows := by
  let entries (axis : List Language) (r : Row) : List Missing :=
    (axis.filter fun l => r.isMissingFor l).map fun l => ⟨r.feature.path, r.feature.title, l⟩
  have hentries (r r' : Row) (hrow : Row.KeptOn axis change r r') :
      (entries axis' r').filter (·.language ∈ axis) = entries axis r := by
    have hselect : (axis'.filter fun l => r'.isMissingFor l).filter (· ∈ axis) =
        axis.filter fun l => r.isMissingFor l := by
      rw [List.filter_comm, haxis]
      exact List.filter_congr fun l hl => hrow.isMissingFor_eq hl
    simp only [entries, List.filter_map, hrow.feature]
    exact congrArg (List.map _) hselect
  have hmap := map_filter_eq_of_forall₂ h (fun _ _ hrow => hrow.isShared_eq) hentries
  change ((rows'.filter (·.isShared)).flatMap (entries axis')).filter (·.language ∈ axis) =
    (rows.filter (·.isShared)).flatMap (entries axis)
  rw [List.filter_flatMap, List.flatMap_def, List.flatMap_def]
  exact congrArg List.flatten hmap

/-- A row that is not shared is not counted. -/
theorem filter_isShared_insert {before after : List Row} {r : Row}
    (hr : r.feature.scope.isShared = false) :
    (before ++ r :: after).filter (·.isShared) = (before ++ after).filter (·.isShared) := by
  simp [Row.isShared, hr]

end

/-! ## Two builds -/

namespace Matrix

/-- What is made of rows stays where they stay, when a row that is not shared is among them. -/
theorem ofRows_keptWith {axis axis' : List Language} {x : CrossReferences}
    {rows before after : List Row} {r : Row} {g : Feature} (haxis : axis'.filter (· ∈ axis) = axis)
    (hr : r.feature = g) (hg : g.scope.isShared = false)
    (hrows : List.Forall₂ (Row.KeptOn axis change) rows (before ++ after)) :
    KeptWith change g (ofRows axis x rows) (ofRows axis' x (before ++ r :: after)) where
  languages := haxis
  summaries := by
    have hsummaries (l : Language) (hl : l ∈ axis) :
        LanguageSummary.ofRows (before ++ r :: after) l = LanguageSummary.ofRows rows l := by
      rw [← LanguageSummary.ofRows_kept hrows hl]
      simp only [LanguageSummary.ofRows, filter_isShared_insert (hr ▸ hg)]
    have hfilter :
        (axis'.map (LanguageSummary.ofRows (before ++ r :: after))).filter (·.language ∈ axis) =
          (axis'.filter (· ∈ axis)).map (LanguageSummary.ofRows (before ++ r :: after)) :=
      List.filter_map
    change (axis'.map (LanguageSummary.ofRows (before ++ r :: after))).filter (·.language ∈ axis) =
      axis.map (LanguageSummary.ofRows rows)
    rw [hfilter, haxis]
    exact List.map_congr_left hsummaries
  missing := by
    change (Missing.ofRows axis' (before ++ r :: after)).filter (·.language ∈ axis) =
      Missing.ofRows axis rows
    rw [← Missing.ofRows_kept hrows haxis]
    simp only [Missing.ofRows, filter_isShared_insert (hr ▸ hg)]
  rows := ⟨before, r, after, rfl, hr, hrows⟩

/-- One more feature leaves the languages that are there in their order. -/
theorem axisOf_filter_insert (policy : LanguagePolicy) (index : VerdictIndex)
    (fs : List Feature) (g : Feature) (gs : List Feature) :
    (axisOf policy index (fs ++ g :: gs)).filter (· ∈ axisOf policy index (fs ++ gs)) =
      axisOf policy index (fs ++ gs) := by
  apply LanguagePolicy.order_filter_mem
  intro l hl
  simp only [List.mem_flatMap, List.mem_filterMap] at hl ⊢
  obtain ⟨v, ⟨f, hf, hv⟩, hl⟩ := hl
  refine ⟨v, ⟨f, ?_, hv⟩, hl⟩
  simp only [List.mem_append, List.mem_cons] at hf ⊢
  exact hf.imp_right .inr

/-- A single-language feature that is added changes nothing on the languages that were there, but the
lines in sources that the finder tells apart. -/
theorem build_keptWith {verdicts : List FeatureVerdict} {g : Feature}
    (hfind : find.Simulates R change (FeatureVerdict.sourcesOf verdicts g))
    (hg : g.scope.isShared = false) (policy : LanguagePolicy) (before after : List Feature)
    (crossReferences : CrossReferences) {s : σ} (h : R s s) :
    KeptWith change g
      ((build find policy (before ++ after) verdicts crossReferences).run s).1
      ((build find policy (before ++ g :: after) verdicts crossReferences).run s).1 := by
  let index := VerdictIndex.ofVerdicts verdicts
  let x := crossReferences.mapValues fun _ rs => rs.mergeSort recordBefore
  let row (sorted : List Feature) := rowOf find (axisOf policy index sorted) x.values.flatten index
  have hbuild {features sorted : List Feature}
      (hsorted : features.mergeSort featureBefore = sorted) :
      ((build find policy features verdicts crossReferences).run s).1 =
        ofRows (axisOf policy index sorted) x ((sorted.mapM (row sorted)).run s).1 := by
    subst hsorted
    rfl
  obtain ⟨fs, gs, hmore, hless⟩ := exists_mergeSort_insert
    (compareLex (compareOn Feature.folder) (compareOn Feature.path)) before g after
  have haxis := axisOf_filter_insert policy index fs g gs
  -- Languages that are new on the axis are none of the other features' verdicts.
  have hlanguages (f : Feature) (hf : f ∈ fs ++ gs) (v : FeatureVerdict) (l : Language)
      (hv : index.lookup? f = some v) (hl : (v.languages.get? l).isSome) :
      l ∈ axisOf policy index (fs ++ gs) := by
    rw [VerdictIndex.lookup?_ofVerdicts] at hv
    exact mem_axisOf.2 ⟨f, hf, v, hv, hl⟩
  obtain ⟨rows, r, rows', hrows, ⟨_, hr⟩, hothers⟩ := Traversal.mapM_insert_simulates
    (row (fs ++ gs)) (row (fs ++ g :: gs)) fs g gs
    (fun f hf _ _ h => rowOf_simulates hfind haxis (hlanguages f hf) h)
    (fun _ _ h => rowOf_extra hfind _ _ h) h
  rw [hbuild hmore, hbuild hless, hrows]
  exact ofRows_keptWith haxis (congrArg Row.feature hr) hg hothers

end Matrix

end SpecCoverage
