-- SUMMARY: A matrix over a fresh bridge is the one over a fixed report, read from what the validator wrote.
import SpecCoverage.Pipeline
import SpecCoverage.Proofs.BridgeCalls
import SpecCoverage.Proofs.Join
import SpecCoverage.Proofs.Traversal

/-!
# Matrices over a bridge

A matrix is built from a report and from cross references, for which a bridge is asked one after the
other. A fresh bridge starts the validator once for both where it is asked for JSON. Where it is
asked for the text log it starts it once more for the cross references, and does without them when
that run fails. Either way the matrix is the one over a fixed report (`Bridge.MadeFrom`).
-/
namespace SpecCoverage

/-! ## Cross references in a matrix -/

/-- A row without its links. -/
def Row.withoutLinks (r : Row) : Row :=
  { r with links := ∅ }

/-- A matrix without its cross references and the links to them. -/
def Matrix.withoutRecords (m : Matrix) : Matrix :=
  { m with rows := m.rows.map (·.withoutLinks), crossReferences := ∅ }

/-- Without records there are no links. -/
theorem linkTable_nil (languages : List Language) (scenarios : List String) :
    linkTable [] languages scenarios = ∅ := by
  have hlinks (forms : List (List Char)) (l : Language) :
      (linksFor [] forms l).isEmpty = true := rfl
  simp only [linkTable, hlinks, if_true, List.filterMap_none, List.isEmpty_nil]
  rfl

theorem LanguageSummary.ofRows_withoutLinks (rows : List Row) (l : Language) :
    ofRows (rows.map (·.withoutLinks)) l = ofRows rows l := by
  simp only [ofRows, List.filter_map, List.map_map]
  rfl

theorem Missing.ofRows_withoutLinks (axis : List Language) (rows : List Row) :
    ofRows axis (rows.map (·.withoutLinks)) = ofRows axis rows := by
  rw [ofRows, ofRows, List.filter_map, List.flatMap_map]
  rfl

namespace Matrix

variable {σ : Type} {find : LineFinder σ} {policy : LanguagePolicy} {features : List Feature}
  {verdicts : List FeatureVerdict}

/-- What is made of rows along an axis. -/
def ofRows (axis : List Language) (x : CrossReferences) (rows : List Row) : Matrix where
  languages := axis
  rows := rows
  summaries := axis.map (LanguageSummary.ofRows rows)
  missing := Missing.ofRows axis rows
  crossReferences := x

theorem ofRows_withoutLinks (axis : List Language) (x : CrossReferences) (rows : List Row) :
    ofRows axis ∅ (rows.map (·.withoutLinks)) = (ofRows axis x rows).withoutRecords := by
  have hsummaries : LanguageSummary.ofRows (rows.map (·.withoutLinks)) = LanguageSummary.ofRows rows :=
    funext fun l => LanguageSummary.ofRows_withoutLinks rows l
  rw [ofRows, hsummaries, Missing.ofRows_withoutLinks]
  rfl

theorem rowOf_nil (axis : List Language) (records : List CrossRecord) (index : VerdictIndex)
    (f : Feature) (s : σ) :
    (rowOf find axis [] index f).run s =
      (((rowOf find axis records index f).run s).1.withoutLinks,
        ((rowOf find axis records index f).run s).2) := by
  simp only [rowOf, linkTable_nil]
  rfl

/-- Without cross references a matrix is what it is with them, less these, and by the same reads of
sources. -/
theorem build_withoutRecords (x : CrossReferences) (s : σ) :
    (build find policy features verdicts ∅).run s =
      (((build find policy features verdicts x).run s).1.withoutRecords,
        ((build find policy features verdicts x).run s).2) := by
  let index := VerdictIndex.ofVerdicts verdicts
  let sorted := features.mergeSort featureBefore
  let axis := axisOf policy index sorted
  let sortedRecords (y : CrossReferences) := y.mapValues fun _ rs => rs.mergeSort recordBefore
  let rowsOf (y : CrossReferences) :=
    (sorted.mapM (rowOf find axis (sortedRecords y).values.flatten index)).run s
  have hbuild (y : CrossReferences) : (build find policy features verdicts y).run s =
      (ofRows axis (sortedRecords y) (rowsOf y).1, (rowsOf y).2) :=
    rfl
  have hrows : rowsOf ∅ = ((rowsOf x).1.map (·.withoutLinks), (rowsOf x).2) :=
    Traversal.mapM_map_congr (rowOf_nil axis _ index) sorted s
  rw [hbuild, hbuild x, hrows, ← ofRows_withoutLinks]
  rfl

end Matrix

/-! ## Runs of a fresh bridge -/

namespace Bridge

variable {σ : Type} {h : Host σ} {b b' : Bridge} {w : σ} {mode : Dialect}

/-- The launches that are runs of the validator and do not build it. -/
def starts (b : Bridge) (ls : List LaunchRecord) : List LaunchRecord :=
  ls.filter (·.launch ≠ b.buildLaunch)

theorem starts_append (b : Bridge) (ls ms : List LaunchRecord) :
    b.starts (ls ++ ms) = b.starts ls ++ b.starts ms :=
  List.filter_append ..

theorem starts_run (b : Bridge) (mode : Dialect) (j : Except FileError Outcome) :
    b.starts [⟨b.runLaunch mode, j⟩] = [⟨b.runLaunch mode, j⟩] := by
  have hne : b.runLaunch mode ≠ b.buildLaunch := (b.buildLaunch_ne_runLaunch mode).symm
  simp [starts, hne]

theorem Refreshes.starts_eq_nil {ls : List LaunchRecord} {result : Except ValidatorError Unit}
    (hr : b.Refreshes h w ls result b') : b.starts ls = [] := by
  refine List.filter_eq_nil_iff.2 fun l hl => ?_
  simp [hr.launch_eq l hl]

/-- The cross references that a run for JSON gives, none where it failed. -/
def recordsOf (b : Bridge) : Except FileError Outcome → CrossReferences
  | .ok o => if o.exitedWith reportCodes then (b.reportOf .json o.stdout).crossReferences else ∅
  | .error _ => ∅

theorem recordsOf_of_failed {l : Launch} {j : Except FileError Outcome}
    (hexit : LaunchRecord.exitedWith ⟨l, j⟩ reportCodes = false) : b.recordsOf j = ∅ := by
  cases j with
  | error e => rfl
  | ok o =>
    have hexit : o.exitedWith reportCodes = false := hexit
    simp [recordsOf, hexit]

/-- What a matrix over a fresh bridge is made from: the starts of the validator, and the report that
is read from what it wrote. -/
inductive MadeFrom (b : Bridge) : List LaunchRecord → Report → Prop
  | json {o : Outcome} (hmode : b.settings.dialect = .json)
    (hexit : o.exitedWith reportCodes = true) :
    MadeFrom b [⟨b.runLaunch .json, .ok o⟩] (b.reportOf .json o.stdout)
  | text {o : Outcome} {j : Except FileError Outcome} (hmode : b.settings.dialect = .text)
    (hexit : o.exitedWith reportCodes = true) :
    MadeFrom b [⟨b.runLaunch .text, .ok o⟩, ⟨b.runLaunch .json, j⟩]
      ⟨(b.reportOf .text o.stdout).verdicts, b.recordsOf j⟩

/-- A bridge that remembers nothing runs the validator once to give a report, and has then checked
it. -/
theorem Reports.of_fresh {ls : List LaunchRecord} {r : Report}
    (hr : b.Reports h mode w ls (.ok r) b') (hmemo : b.memo = .empty) :
    ∃ o : Outcome, b.starts ls = [⟨b.runLaunch mode, .ok o⟩] ∧ o.exitedWith reportCodes = true ∧
      r = b.reportOf mode o.stdout ∧ b'.memo = Memo.empty.insert r mode ∧ ¬ b'.Unchecked := by
  cases hr with
  | remembered hr => simp [hmemo] at hr
  | run hnew hrefresh hexit =>
    refine ⟨_, ?_, hexit, rfl, ?_, hrefresh.not_unchecked_of_ok⟩
    · rw [starts_append, hrefresh.starts_eq_nil, starts_run, List.nil_append]
    · rw [hrefresh.memo_eq fun _ => hmemo, hmemo]

/-- A bridge that has checked the validator runs it once for a report that it does not remember. -/
theorem Reports.of_checked {ls : List LaunchRecord} {result : Except ValidatorError Report}
    (hr : b.Reports h mode w ls result b') (hnew : b.memo.get? mode = none)
    (hdone : ¬ b.Unchecked) :
    ∃ j, ls = [⟨b.runLaunch mode, j⟩] ∧
      ((∃ o, j = .ok o ∧ o.exitedWith reportCodes = true ∧
          result = .ok (b.reportOf mode o.stdout)) ∨
        LaunchRecord.exitedWith ⟨b.runLaunch mode, j⟩ reportCodes = false ∧
          ∃ e, result = .error e) := by
  have hsettled {ms : List LaunchRecord} {result' : Except ValidatorError Unit} {b'' : Bridge}
      (hrefresh : b.Refreshes h w ms result' b'') : ms = [] ∧ result' = .ok () := by
    cases hrefresh with
    | settled => exact ⟨rfl, rfl⟩
    | unknown hdue | current hdue | built hdue | failed hdue => exact absurd hdue hdone
  cases hr with
  | remembered hr =>
    rw [hnew] at hr
    cases hr
  | notRefreshed _ hrefresh => cases (hsettled hrefresh).2
  | @notRun _ l e _ _ hrefresh hlaunch hexit =>
    obtain ⟨launch, j⟩ := l
    obtain rfl : launch = b.runLaunch mode := hlaunch
    obtain ⟨rfl, -⟩ := hsettled hrefresh
    exact ⟨j, rfl, .inr ⟨hexit, e, rfl⟩⟩
  | run _ hrefresh hexit =>
    obtain ⟨rfl, -⟩ := hsettled hrefresh
    exact ⟨_, rfl, .inl ⟨_, rfl, hexit, rfl⟩⟩

theorem report_of_remembered {r : Report} (h : Host σ) (w : σ) (hr : b.memo.get? mode = some r) :
    b.report h mode w = (.ok r, b, w) := by
  rw [report, hr]

/-- Cross references are those of the JSON report; for the text log they are given up with it. -/
theorem crossReferences_eq (h : Host σ) (b : Bridge) (w : σ) :
    b.crossReferences h w =
      (match (b.report h .json w).1 with
        | .ok r => .ok r.crossReferences
        | .error e => if b.settings.dialect = .text then .ok ∅ else .error e,
        (b.report h .json w).2) := by
  obtain ⟨ls, hreports, -⟩ := exists_reports h b .json w []
  have hsettings := hreports.settings_eq
  unfold crossReferences
  generalize b.report h .json w = reported at hsettings
  obtain ⟨result, b', w'⟩ := reported
  cases result with
  | ok r => rfl
  | error e =>
    simp only at hsettings
    simp only [hsettings]

/-- A checked bridge that is asked for the text log finds cross references, whatever becomes of the
run for them. -/
theorem exists_crossReferences (h : Host σ) (w : σ) (hmode : b.settings.dialect = .text)
    (hnew : b.memo.get? .json = none) (hdone : ¬ b.Unchecked) (rs : List LaunchRecord) :
    ∃ j b' w', b.crossReferences h w = (.ok (b.recordsOf j), b', w') ∧
      b.crossReferences h.recording (w, rs) =
        (.ok (b.recordsOf j), b', w', rs ++ [⟨b.runLaunch .json, j⟩]) := by
  obtain ⟨ls, hreports, hrecording⟩ := exists_reports h b .json w rs
  obtain ⟨j, rfl, hrun⟩ := hreports.of_checked hnew hdone
  refine ⟨j, (b.report h .json w).2.1, (b.report h .json w).2.2, ?_⟩
  rw [crossReferences_eq, crossReferences_eq, hrecording, hmode]
  obtain ⟨o, rfl, hexit, hresult⟩ | ⟨hexit, e, hresult⟩ := hrun
  · simp [hresult, recordsOf, hexit]
  · simp [hresult, recordsOf_of_failed hexit]

theorem recordsOf_congr (hs : b'.settings = b.settings) (j : Except FileError Outcome) :
    b'.recordsOf j = b.recordsOf j := by
  cases j with
  | error e => rfl
  | ok o => rw [recordsOf, recordsOf, reportOf_congr hs]

/-- A fresh bridge that gives a report gives cross references too, and both are read from its runs
of the validator. -/
theorem exists_madeFrom (hmemo : b.memo = .empty) {r : Report}
    (hreport : (b.fullReport h w).1 = .ok r) :
    ∃ ls x w', ReportRequest.findings h b w = (.ok (r, x), w') ∧
      ReportRequest.findings h.recording b (w, []) = (.ok (r, x), w', ls) ∧
      b.MadeFrom (b.starts ls) ⟨r.verdicts, x⟩ := by
  obtain ⟨ls, hreports, hrecording⟩ := exists_reports h b b.settings.dialect w []
  have hsettings := hreports.settings_eq
  unfold ReportRequest.findings fullReport at *
  rw [hrecording, List.nil_append]
  generalize b.report h b.settings.dialect w = reported at hreports hsettings hreport
  obtain ⟨result, b₁, w₁⟩ := reported
  obtain rfl : result = .ok r := hreport
  obtain ⟨o, hstarts, hexit, rfl, hmemo₁, hdone⟩ := hreports.of_fresh hmemo
  simp only at hsettings ⊢
  cases hmode : b.settings.dialect with
  | json =>
    -- The cross references are taken from the report that is remembered now.
    rw [hmode] at hstarts hmemo₁
    have hcached : b₁.memo.get? .json = some (b.reportOf .json o.stdout) := by
      rw [hmemo₁, Memo.get?_insert, if_pos rfl]
    refine ⟨ls, (b.reportOf .json o.stdout).crossReferences, w₁, ?_, ?_, ?_⟩
    · rw [crossReferences_eq, report_of_remembered _ _ hcached]
    · rw [crossReferences_eq, report_of_remembered _ _ hcached]
    · rw [hstarts]
      exact .json hmode hexit
  | text =>
    rw [hmode] at hstarts hmemo₁
    have hnew : b₁.memo.get? .json = none := by
      rw [hmemo₁, Memo.get?_insert, if_neg (by decide), Memo.get?_empty]
    obtain ⟨j, b₂, w₂, hreferences, hrecorded⟩ :=
      exists_crossReferences h w₁ (hsettings ▸ hmode) hnew hdone ls
    refine ⟨ls ++ [⟨b₁.runLaunch .json, j⟩], b.recordsOf j, w₂, ?_, ?_, ?_⟩
    · rw [hreferences, recordsOf_congr hsettings]
    · rw [hrecorded, recordsOf_congr hsettings]
    · rw [runLaunch_congr hsettings, starts_append, hstarts, starts_run]
      exact .text hmode hexit

theorem fullReport_of_findings {r : Report} {x : CrossReferences} {w' : σ}
    (hfound : ReportRequest.findings h b w = (.ok (r, x), w')) : (b.fullReport h w).1 = .ok r := by
  unfold ReportRequest.findings at hfound
  generalize b.fullReport h w = reported at hfound
  obtain ⟨result, b₁, w₁⟩ := reported
  cases result with
  | error e => simp at hfound
  | ok r₁ =>
    simp only at hfound
    generalize b₁.crossReferences h w₁ = found at hfound
    obtain ⟨result, b₂, w₂⟩ := found
    cases result with
    | error e => simp at hfound
    | ok x₁ =>
      obtain ⟨hpair, -⟩ := Prod.mk.inj hfound
      rw [(Prod.mk.inj (Except.ok.inj hpair)).1]

end Bridge

/-! ## The matrix -/

namespace Catalog

variable {σ : Type}

/-- The matrix of features under a fixed report. -/
def matrixOf (c : Catalog) (d : Disk) (features : List Feature) (r : Report) : Matrix :=
  (c.matrix d features r.verdicts r.crossReferences).1

/-- The matrix of features under what a bridge gives, with the sources as they are then. -/
def matrixOver (h : Host σ) (c : Catalog) (features : List Feature) (b : Bridge) (w : σ) :
    Except ValidatorError Matrix × σ :=
  match ReportRequest.findings h b w with
  | (.error e, w) => (.error e, w)
  | (.ok (r, x), w) => (.ok (c.matrixOf (h.disk w) features ⟨r.verdicts, x⟩), w)

/-- A request renders the matrix over the bridge of its workspace. -/
theorem run_eq_matrixOver (h : Host σ) (r : ReportRequest) (w : σ) :
    r.run h w =
      let loaded := r.load (h.disk w)
      let made := loaded.2.matrixOver h loaded.1 (r.bridge (h.disk w)) w
      (made.1.map fun m => ⟨r.presentation.render? r.settings.pageOptions m, m⟩, made.2) := by
  unfold ReportRequest.run matrixOver
  generalize ReportRequest.findings h (r.bridge (h.disk w)) w = found
  obtain ⟨result, w'⟩ := found
  cases result <;> rfl

theorem withoutRecords_matrixOf (c : Catalog) (d : Disk) (features : List Feature) (r : Report) :
    (c.matrixOf d features r).withoutRecords = c.matrixOf d features ⟨r.verdicts, ∅⟩ := by
  unfold matrixOf matrix
  rw [Matrix.build_withoutRecords r.crossReferences c]

theorem exists_findings_of_matrixOver {h : Host σ} {c : Catalog} {features : List Feature}
    {b : Bridge} {w w' : σ} {m : Matrix} (hmade : c.matrixOver h features b w = (.ok m, w')) :
    ∃ r x, ReportRequest.findings h b w = (.ok (r, x), w') ∧
      m = c.matrixOf (h.disk w') features ⟨r.verdicts, x⟩ := by
  unfold matrixOver at hmade
  generalize ReportRequest.findings h b w = found at hmade
  obtain ⟨result, w₁⟩ := found
  cases result with
  | error e => simp at hmade
  | ok found =>
    obtain ⟨hm, rfl⟩ := Prod.mk.inj hmade
    exact ⟨found.1, found.2, rfl, (Except.ok.inj hm).symm⟩

/-- What a matrix over a fresh bridge owes to the runs of the validator. -/
structure FollowsRuns (h : Host σ) (c : Catalog) (features : List Feature) (b : Bridge) (w w' : σ)
    (m : Matrix) : Prop where
  /-- It is the matrix over the report that is read from these runs. -/
  made : ∃ ls r, c.matrixOver h.recording features b (w, []) = (.ok m, w', ls) ∧
    b.MadeFrom (b.starts ls) r ∧ m = c.matrixOf (h.disk w') features r
  /-- A host that gives the same report gives the same matrix but for the cross references. For the
  text log the run for these may come to anything. -/
  report_alone : ∀ (τ : Type) (h' : Host τ) (v : τ),
    (b.fullReport h' v).1 = (b.fullReport h w).1 →
      ∃ m' v', c.matrixOver h' features b v = (.ok m', v') ∧
        (h'.disk v' = h.disk w' → m'.withoutRecords = m.withoutRecords)

/-- A host whose build tool writes a log and whose validator cannot be started for JSON. -/
def logHost : Host Unit where
  disk _ := ⟨[], [], 0⟩
  launch l _ :=
    if "--verbose" ∈ l.arguments then
      (.ok ⟨some 0, "📋 Feature: user/login.feature\n✅ Go: login_test.go\n", ""⟩, ())
    else (.error .notFound, ())

end Catalog

end SpecCoverage
