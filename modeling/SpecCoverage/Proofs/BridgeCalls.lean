-- SUMMARY: What a single call of the bridge can do: which programs it runs, what it answers, what it then remembers.
import SpecCoverage.Validator.Bridge

/-!
# Calls of the bridge

A call of the bridge may check that the validator is up to date, build it, run it, and remember what
it reports. `Refreshes` and `Reports` list the ways in which this can go, each with the programs that
were run (`Host.recording`). All that is said of the bridge later is read off these two lists.
-/
namespace SpecCoverage

-- ---------------------------------------------------------------------------
-- Programs that were run
-- ---------------------------------------------------------------------------

/-- A launch and what came of it. -/
structure LaunchRecord where
  launch : Launch
  result : Except FileError Outcome

/-- Did the program run and end with one of the codes? -/
def LaunchRecord.exitedWith (r : LaunchRecord) (codes : List Int) : Bool :=
  r.result.toOption.any (·.exitedWith codes)

namespace Host

variable {σ : Type}

/-- The host that does as another one and writes its launches down, the last one last. -/
def recording (h : Host σ) : Host (σ × List LaunchRecord) where
  disk s := h.disk s.1
  launch l s := ((h.launch l s.1).1, (h.launch l s.1).2, s.2 ++ [⟨l, (h.launch l s.1).1⟩])

end Host

namespace Bridge

variable {σ : Type} {h : Host σ} {b b' : Bridge} {w : σ} {mode : Dialect}

/-- Is this a build of the validator that succeeded? -/
def builtBy (b : Bridge) (r : LaunchRecord) : Bool :=
  r.launch == b.buildLaunch && r.exitedWith [0]

-- ---------------------------------------------------------------------------
-- Making sure that the validator is up to date
-- ---------------------------------------------------------------------------

/-- Is the validator older than what it is built from, as far as the disk tells? -/
def outdated (b : Bridge) (h : Host σ) (w : σ) : Except ValidatorError Bool :=
  Freshness.isOutdated (h.disk w) b.directory b.binary

/-- Does a call have to make sure that the validator is up to date? -/
def Unchecked (b : Bridge) : Prop := b.settings.rebuild = true ∧ b.checked = false

/-- The ways in which `refresh` goes: programs run, answer, and bridge after it. -/
inductive Refreshes (h : Host σ) (b : Bridge) (w : σ) :
    List LaunchRecord → Except ValidatorError Unit → Bridge → Prop
  | settled (hdone : ¬ b.Unchecked) : Refreshes h b w [] (.ok ()) b
  | unknown {e : ValidatorError} (hdue : b.Unchecked) (hdisk : b.outdated h w = .error e) :
    Refreshes h b w [] (.error e) b
  | current (hdue : b.Unchecked) (hdisk : b.outdated h w = .ok false) :
    Refreshes h b w [] (.ok ()) { b with checked := true }
  | built {r : LaunchRecord} (hdue : b.Unchecked) (hdisk : b.outdated h w = .ok true)
    (hbuilt : b.builtBy r = true) :
    Refreshes h b w [r] (.ok ()) { b with memo := .empty, checked := true }
  | failed {r : LaunchRecord} {e : ValidatorError} (hdue : b.Unchecked)
    (hdisk : b.outdated h w = .ok true) (hlaunch : r.launch = b.buildLaunch)
    (hbuilt : b.builtBy r = false) : Refreshes h b w [r] (.error e) b

theorem perform_recording (h : Host σ) (l : Launch) (w : σ) (rs : List LaunchRecord) :
    perform h.recording l (w, rs) =
      ((perform h l w).1, (perform h l w).2, rs ++ [⟨l, (h.launch l w).1⟩]) := rfl

theorem perform_eq (h : Host σ) (l : Launch) (w : σ) :
    perform h l w =
      ((h.launch l w).1.mapError fun e => .spawn (l.program.text ++ ": " ++ e.message),
        (h.launch l w).2) := rfl

theorem perform_of_ok (h : Host σ) {l : Launch} {o : Outcome} (ho : (h.launch l w).1 = .ok o) :
    perform h l w = (.ok o, (h.launch l w).2) := by
  rw [perform_eq, ho]
  rfl

theorem perform_of_error (h : Host σ) {l : Launch} {e : FileError}
    (he : (h.launch l w).1 = .error e) :
    perform h l w =
      (.error (.spawn (l.program.text ++ ": " ++ e.message)), (h.launch l w).2) := by
  rw [perform_eq, he]
  rfl

/-- A build that is due succeeds, and then forgets what is remembered, or changes nothing. -/
theorem refreshes_build (h : Host σ) (w : σ) (hdue : b.Unchecked)
    (hdisk : b.outdated h w = .ok true) :
    b.Refreshes h w [⟨b.buildLaunch, (h.launch b.buildLaunch w).1⟩] (b.build h w).1
      (b.build h w).2.1 := by
  unfold build
  cases hlaunch : (h.launch b.buildLaunch w).1 with
  | error e =>
    rw [perform_of_error h hlaunch]
    have hbuilt : b.builtBy ⟨b.buildLaunch, .error e⟩ = false := by
      simp [builtBy, LaunchRecord.exitedWith, Except.toOption]
    exact .failed hdue hdisk rfl hbuilt
  | ok o =>
    have hbuilt : b.builtBy ⟨b.buildLaunch, .ok o⟩ = o.exitedWith [0] := by
      simp [builtBy, LaunchRecord.exitedWith, Except.toOption]
    rw [perform_of_ok h hlaunch]
    dsimp only
    split
    · rename_i hexit
      exact .built hdue hdisk (hbuilt.trans hexit)
    · rename_i hexit
      exact .failed hdue hdisk rfl (hbuilt.trans (Bool.eq_false_iff.2 hexit))

theorem build_recording (h : Host σ) (b : Bridge) (w : σ) (rs : List LaunchRecord) :
    b.build h.recording (w, rs) =
      ((b.build h w).1, (b.build h w).2.1, (b.build h w).2.2,
        rs ++ [⟨b.buildLaunch, (h.launch b.buildLaunch w).1⟩]) := by
  unfold build
  rw [perform_recording]
  cases hperform : perform h b.buildLaunch w with
  | mk result w' =>
    cases result with
    | error e => rfl
    | ok o =>
      simp only
      split <;> rfl

/-- `refresh` goes in one of the listed ways, and writing its launches down changes nothing else. -/
theorem exists_refreshes (h : Host σ) (b : Bridge) (w : σ) (rs : List LaunchRecord) :
    ∃ ls, b.Refreshes h w ls (b.refresh h w).1 (b.refresh h w).2.1 ∧
      b.refresh h.recording (w, rs) =
        ((b.refresh h w).1, (b.refresh h w).2.1, (b.refresh h w).2.2, rs ++ ls) := by
  have hdue : (b.checked || !b.settings.rebuild) = true ↔ ¬ b.Unchecked := by
    cases hc : b.checked <;> simp [Unchecked, hc]
  unfold refresh
  by_cases hdone : (b.checked || !b.settings.rebuild) = true
  · simp only [if_pos hdone]
    exact ⟨[], .settled (hdue.1 hdone), by simp⟩
  simp only [if_neg hdone]
  have hunchecked : b.Unchecked := Classical.not_not.1 (mt hdue.2 hdone)
  have hdisk : Freshness.isOutdated (h.recording.disk (w, rs)) b.directory b.binary =
      b.outdated h w := rfl
  rw [hdisk, ← outdated]
  cases hout : b.outdated h w with
  | error e => exact ⟨[], .unknown hunchecked hout, by simp⟩
  | ok outdated =>
    cases outdated with
    | false => exact ⟨[], .current hunchecked hout, by simp⟩
    | true =>
      exact ⟨_, refreshes_build h w hunchecked hout, build_recording h b w rs⟩

/-- A bridge that has not checked the validator remembers nothing. -/
def Guarded (b : Bridge) : Prop := b.Unchecked → b.memo = .empty

/-- A call that has to check the validator finds it up to date, or builds it with success. -/
def FindsCurrent (b : Bridge) (h : Host σ) (w : σ) (ls : List LaunchRecord) : Prop :=
  b.Unchecked ∧ (b.outdated h w = .ok false ∨
    b.outdated h w = .ok true ∧ ∃ r ∈ ls, b.builtBy r = true)

theorem FindsCurrent.of_append {ls : List LaunchRecord} (hfinds : b.FindsCurrent h w ls)
    (later : List LaunchRecord) : b.FindsCurrent h w (ls ++ later) := by
  obtain ⟨hdue, hdisk | ⟨hdisk, r, hr, hbuilt⟩⟩ := hfinds
  · exact ⟨hdue, .inl hdisk⟩
  · exact ⟨hdue, .inr ⟨hdisk, r, List.mem_append_left _ hr, hbuilt⟩⟩

namespace Refreshes

variable {ls : List LaunchRecord} {result : Except ValidatorError Unit}

theorem settings_eq (hr : b.Refreshes h w ls result b') : b'.settings = b.settings := by
  cases hr <;> rfl

theorem launch_eq (hr : b.Refreshes h w ls result b') : ∀ r ∈ ls, r.launch = b.buildLaunch := by
  intro r hmem
  cases hr with
  | settled | unknown | current => cases hmem
  | built _ _ hbuilt =>
    obtain rfl := List.mem_singleton.1 hmem
    simp only [builtBy, Bool.and_eq_true, beq_iff_eq] at hbuilt
    exact hbuilt.1
  | failed _ _ hlaunch =>
    obtain rfl := List.mem_singleton.1 hmem
    exact hlaunch

theorem eq_of_error {e : ValidatorError} (hr : b.Refreshes h w ls (.error e) b') : b' = b := by
  cases hr <;> rfl

/-- Forgetting the reports after a build changes nothing, since none are remembered then. -/
theorem memo_eq (hr : b.Refreshes h w ls result b') (hguard : b.Guarded) : b'.memo = b.memo := by
  cases hr with
  | settled | unknown | current | failed => rfl
  | built hdue => exact (hguard hdue).symm

theorem checked_of_checked (hr : b.Refreshes h w ls result b') (hb : b.checked = true) :
    b'.checked = true := by
  cases hr <;> first | rfl | exact hb

/-- Once the validator has been made sure of, it has been checked, by this call or before it. -/
theorem findsCurrent_of_ok (hr : b.Refreshes h w ls (.ok ()) b') (hdue : b.Unchecked) :
    b'.checked = true ∧ b.FindsCurrent h w ls := by
  cases hr with
  | settled hdone => exact absurd hdue hdone
  | current _ hdisk => exact ⟨rfl, hdue, .inl hdisk⟩
  | built _ hdisk hbuilt => exact ⟨rfl, hdue, .inr ⟨hdisk, _, by simp, hbuilt⟩⟩

theorem not_unchecked_of_ok (hr : b.Refreshes h w ls (.ok ()) b') : ¬ b'.Unchecked := by
  intro hdue
  by_cases hb : b.Unchecked
  · have hchecked := (hr.findsCurrent_of_ok hb).1
    rw [hdue.2] at hchecked
    cases hchecked
  · cases hr with
    | settled => exact hb hdue
    | current hdue' => exact hb hdue'
    | built hdue' => exact hb hdue'

theorem builds (hr : b.Refreshes h w ls result b') :
    ls.countP b.builtBy ≤ 1 ∧
      ((∃ r ∈ ls, b.builtBy r = true) → b.Unchecked ∧ b'.checked = true) := by
  cases hr with
  | settled | unknown | current => simp
  | built hdue _ hbuilt => simp [hdue, hbuilt]
  | failed _ _ _ hbuilt => simp [hbuilt]

end Refreshes

-- ---------------------------------------------------------------------------
-- Reports
-- ---------------------------------------------------------------------------

theorem runLaunch_congr (hs : b'.settings = b.settings) (mode : Dialect) :
    b'.runLaunch mode = b.runLaunch mode := by
  cases mode <;> simp [runLaunch, binary, directory, scope, features, hs]

theorem reportOf_congr (hs : b'.settings = b.settings) (mode : Dialect) (output : String) :
    b'.reportOf mode output = b.reportOf mode output := by
  simp [reportOf, context, hs]

/-- A run of the validator gives an outcome just when it ended with a code of reports. -/
theorem invoke_eq (h : Host σ) (b : Bridge) (mode : Dialect) (w : σ) :
    (∃ o, (h.launch (b.runLaunch mode) w).1 = .ok o ∧ o.exitedWith reportCodes = true ∧
        (b.invoke h mode w).1 = .ok o) ∨
      (LaunchRecord.mk (b.runLaunch mode) (h.launch (b.runLaunch mode) w).1).exitedWith reportCodes =
          false ∧
        ∃ e, (b.invoke h mode w).1 = .error e := by
  unfold invoke
  cases hlaunch : (h.launch (b.runLaunch mode) w).1 with
  | error e =>
    rw [perform_of_error h hlaunch]
    exact .inr ⟨rfl, _, rfl⟩
  | ok o =>
    rw [perform_of_ok h hlaunch]
    dsimp only
    split
    · rename_i hexit
      exact .inl ⟨o, rfl, hexit, rfl⟩
    · rename_i hexit
      exact .inr ⟨Bool.eq_false_iff.2 hexit, _, rfl⟩

theorem invoke_recording (h : Host σ) (b : Bridge) (mode : Dialect) (w : σ)
    (rs : List LaunchRecord) :
    b.invoke h.recording mode (w, rs) =
      ((b.invoke h mode w).1, (b.invoke h mode w).2,
        rs ++ [⟨b.runLaunch mode, (h.launch (b.runLaunch mode) w).1⟩]) := by
  unfold invoke
  rw [perform_recording]
  cases hperform : perform h (b.runLaunch mode) w with
  | mk result w' =>
    cases result with
    | error e => rfl
    | ok o =>
      simp only
      split <;> rfl

/-- The ways in which `report` goes: programs run, answer, and bridge after it. -/
inductive Reports (h : Host σ) (b : Bridge) (mode : Dialect) (w : σ) :
    List LaunchRecord → Except ValidatorError Report → Bridge → Prop
  | remembered {r : Report} (hr : b.memo.get? mode = some r) : Reports h b mode w [] (.ok r) b
  | notRefreshed {ls : List LaunchRecord} {e : ValidatorError} {b' : Bridge}
    (hnew : b.memo.get? mode = none) (hrefresh : b.Refreshes h w ls (.error e) b') :
    Reports h b mode w ls (.error e) b'
  | notRun {ls : List LaunchRecord} {r : LaunchRecord} {e : ValidatorError} {b' : Bridge}
    (hnew : b.memo.get? mode = none) (hrefresh : b.Refreshes h w ls (.ok ()) b')
    (hlaunch : r.launch = b.runLaunch mode) (hexit : r.exitedWith reportCodes = false) :
    Reports h b mode w (ls ++ [r]) (.error e) b'
  | run {ls : List LaunchRecord} {o : Outcome} {b' : Bridge}
    (hnew : b.memo.get? mode = none) (hrefresh : b.Refreshes h w ls (.ok ()) b')
    (hexit : o.exitedWith reportCodes = true) :
    Reports h b mode w (ls ++ [⟨b.runLaunch mode, .ok o⟩]) (.ok (b.reportOf mode o.stdout))
      { b' with memo := b'.memo.insert (b.reportOf mode o.stdout) mode }

/-- `report` goes in one of the listed ways, and writing its launches down changes nothing else. -/
theorem exists_reports (h : Host σ) (b : Bridge) (mode : Dialect) (w : σ) (rs : List LaunchRecord) :
    ∃ ls, b.Reports h mode w ls (b.report h mode w).1 (b.report h mode w).2.1 ∧
      b.report h.recording mode (w, rs) =
        ((b.report h mode w).1, (b.report h mode w).2.1, (b.report h mode w).2.2, rs ++ ls) := by
  obtain ⟨ls, hrefreshes, hrecording⟩ := exists_refreshes h b w rs
  unfold report
  cases hmemo : b.memo.get? mode with
  | some r => exact ⟨[], .remembered hmemo, by simp⟩
  | none =>
    rw [hrecording]
    generalize b.refresh h w = refreshed at hrefreshes
    obtain ⟨result, b', w'⟩ := refreshed
    cases result with
    | error e => exact ⟨ls, .notRefreshed hmemo hrefreshes, rfl⟩
    | ok done =>
      cases done
      have hsettings : b'.settings = b.settings := hrefreshes.settings_eq
      refine ⟨ls ++ [⟨b.runLaunch mode, (h.launch (b.runLaunch mode) w').1⟩], ?_⟩
      rw [← List.append_assoc, ← runLaunch_congr hsettings]
      simp only [invoke_recording]
      have hinvoked := invoke_eq h b' mode w'
      generalize b'.invoke h mode w' = invoked at hinvoked
      obtain ⟨result, w''⟩ := invoked
      rcases hinvoked with ⟨o, hresult, hexit, rfl⟩ | ⟨hexit, e, rfl⟩
      · refine ⟨?_, rfl⟩
        rw [hresult]
        simp only [reportOf_congr hsettings, runLaunch_congr hsettings]
        exact .run hmemo hrefreshes hexit
      · exact ⟨.notRun hmemo hrefreshes (runLaunch_congr hsettings mode) hexit, rfl⟩

theorem buildLaunch_ne_runLaunch (b : Bridge) (mode : Dialect) : b.buildLaunch ≠ b.runLaunch mode := by
  intro heq
  have harguments := congrArg (·.arguments) heq
  cases mode <;> simp [buildLaunch, runLaunch, scope] at harguments

theorem builtBy_eq_false {r : LaunchRecord} (hlaunch : r.launch = b.runLaunch mode) :
    b.builtBy r = false := by
  have hne : r.launch ≠ b.buildLaunch := hlaunch ▸ (b.buildLaunch_ne_runLaunch mode).symm
  simp [builtBy, hne]

/-- Where an element stands in a list that ends with another one, if it is not among the others. -/
theorem eq_of_append_cons_eq_concat {α : Type} {xs ys zs : List α} {x z : α}
    (heq : xs ++ x :: ys = zs ++ [z]) (hx : x ∉ zs) : xs = zs := by
  rcases List.eq_nil_or_concat ys with rfl | ⟨ys', y, rfl⟩
  · exact List.append_inj_left' heq rfl
  · have heq : (xs ++ x :: ys') ++ [y] = zs ++ [z] := by simpa using heq
    have hbegins : xs ++ x :: ys' = zs := List.append_inj_left' heq rfl
    exact absurd (by simp [← hbegins]) hx

namespace Reports

variable {ls : List LaunchRecord} {result : Except ValidatorError Report} {r : Report}

/-- A report that is remembered is given again, and nothing is run. -/
theorem of_remembered (hr : b.Reports h mode w ls result b') (hmemo : b.memo.get? mode = some r) :
    ls = [] ∧ result = .ok r ∧ b' = b := by
  cases hr with
  | remembered hr =>
    obtain rfl := Option.some.inj (hmemo.symm.trans hr)
    exact ⟨rfl, rfl, rfl⟩
  | notRefreshed hnew | notRun hnew | run hnew =>
    rw [hmemo] at hnew
    cases hnew

theorem settings_eq (hr : b.Reports h mode w ls result b') : b'.settings = b.settings := by
  cases hr with
  | remembered => rfl
  | notRefreshed _ hrefresh | notRun _ hrefresh | run _ hrefresh => exact hrefresh.settings_eq

theorem guarded (hr : b.Reports h mode w ls result b') (hguard : b.Guarded) : b'.Guarded := by
  cases hr with
  | remembered => exact hguard
  | notRefreshed _ hrefresh =>
    rw [hrefresh.eq_of_error]
    exact hguard
  | notRun _ hrefresh | run _ hrefresh => exact fun hdue => absurd hdue hrefresh.not_unchecked_of_ok

/-- The report that a call gives is remembered. -/
theorem get?_memo_of_ok (hr : b.Reports h mode w ls (.ok r) b') : b'.memo.get? mode = some r := by
  cases hr with
  | remembered hr => exact hr
  | run => rw [Memo.get?_insert, if_pos rfl]

/-- A call that fails leaves what is remembered as it was. -/
theorem memo_eq_of_error {e : ValidatorError} (hr : b.Reports h mode w ls (.error e) b')
    (hguard : b.Guarded) : b'.memo = b.memo := by
  cases hr with
  | notRefreshed _ hrefresh | notRun _ hrefresh => exact hrefresh.memo_eq hguard

/-- What is remembered stays remembered. -/
theorem get?_memo_of_get?_memo {m : Dialect} (hr : b.Reports h mode w ls result b')
    (hguard : b.Guarded) (hm : b.memo.get? m = some r) : b'.memo.get? m = some r := by
  cases hr with
  | remembered => exact hm
  | notRefreshed _ hrefresh | notRun _ hrefresh => rwa [hrefresh.memo_eq hguard]
  | run hnew hrefresh =>
    have hne : m ≠ mode := by
      rintro rfl
      rw [hm] at hnew
      cases hnew
    rwa [Memo.get?_insert, if_neg hne, hrefresh.memo_eq hguard]

/-- What is remembered was so before or has been read from a run in this call. -/
theorem get?_memo {m : Dialect} (hr : b.Reports h mode w ls result b') (hguard : b.Guarded)
    (hm : b'.memo.get? m = some r) :
    b.memo.get? m = some r ∨ ∃ o : Outcome, ⟨b.runLaunch m, .ok o⟩ ∈ ls ∧
      o.exitedWith reportCodes = true ∧ r = b.reportOf m o.stdout := by
  cases hr with
  | remembered => exact .inl hm
  | notRefreshed _ hrefresh | notRun _ hrefresh =>
    rw [hrefresh.memo_eq hguard] at hm
    exact .inl hm
  | run hnew hrefresh hexit =>
    rw [Memo.get?_insert] at hm
    split at hm
    · rename_i hmode
      subst hmode
      exact .inr ⟨_, by simp, hexit, (Option.some.inj hm).symm⟩
    · rw [hrefresh.memo_eq hguard] at hm
      exact .inl hm

theorem checked_of_checked (hr : b.Reports h mode w ls result b') (hb : b.checked = true) :
    b'.checked = true := by
  cases hr with
  | remembered => exact hb
  | notRefreshed _ hrefresh | notRun _ hrefresh | run _ hrefresh =>
    exact hrefresh.checked_of_checked hb

/-- The validator runs in a call only after it has been checked, by this call or before it. -/
theorem findsCurrent_of_run {m : Dialect} {earlier later : List LaunchRecord} {l : LaunchRecord}
    (hr : b.Reports h mode w (earlier ++ l :: later) result b') (hlaunch : l.launch = b.runLaunch m)
    (hdue : b.Unchecked) : b'.checked = true ∧ b.FindsCurrent h w earlier := by
  have hrun {ls : List LaunchRecord} (hbuilds : ∀ r ∈ ls, r.launch = b.buildLaunch) : l ∉ ls := by
    intro hmem
    exact b.buildLaunch_ne_runLaunch m ((hbuilds l hmem).symm.trans hlaunch)
  generalize hls : earlier ++ l :: later = ls at hr
  cases hr with
  | remembered => simp at hls
  | notRefreshed _ hrefresh =>
    subst hls
    exact absurd (by simp) (hrun hrefresh.launch_eq)
  | notRun _ hrefresh | run _ hrefresh =>
    rw [eq_of_append_cons_eq_concat hls (hrun hrefresh.launch_eq)]
    exact hrefresh.findsCurrent_of_ok hdue

/-- A call in which the flag is set has checked the validator. -/
theorem findsCurrent_of_checked (hr : b.Reports h mode w ls result b') (hdue : b.Unchecked)
    (hb : b'.checked = true) : b.FindsCurrent h w ls := by
  have hnot : b.checked ≠ true := by simp [hdue.2]
  cases hr with
  | remembered => exact absurd hb hnot
  | notRefreshed _ hrefresh =>
    rw [hrefresh.eq_of_error] at hb
    exact absurd hb hnot
  | notRun _ hrefresh | run _ hrefresh =>
    exact (hrefresh.findsCurrent_of_ok hdue).2.of_append _

theorem builds (hr : b.Reports h mode w ls result b') :
    ls.countP b.builtBy ≤ 1 ∧
      ((∃ r ∈ ls, b.builtBy r = true) → b.Unchecked ∧ b'.checked = true) := by
  cases hr with
  | remembered => simp
  | notRefreshed _ hrefresh => exact hrefresh.builds
  | notRun _ hrefresh hlaunch =>
    simpa [builtBy_eq_false hlaunch, or_and_right, exists_or] using hrefresh.builds
  | run _ hrefresh =>
    have hbuilt (o : Outcome) : b.builtBy ⟨b.runLaunch mode, .ok o⟩ = false := builtBy_eq_false rfl
    simpa [hbuilt, or_and_right, exists_or] using hrefresh.builds

end Reports

end Bridge

end SpecCoverage
