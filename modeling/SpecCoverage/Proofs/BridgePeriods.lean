-- SUMMARY: What holds of a bridge from one invalidation to the next, whatever is asked of it and whatever the host does.
import Mathlib.Data.List.DropRight
import SpecCoverage.Proofs.BridgeCalls

/-!
# Periods of a bridge

A bridge is asked one thing after the other, and between two calls anything may happen to the world,
so each call comes with the world that it finds (`Turn`). A period is what was asked since the bridge
was last told to forget. `PeriodKept` collects what holds of a period: it holds of an empty one and
is kept by every call.
-/
namespace SpecCoverage

/-- What can be asked of a bridge. -/
inductive Request where
  | report (mode : Dialect)
  | fullReport
  | crossReferences
  | invalidate
  deriving DecidableEq

inductive Answer where
  | report (result : Except ValidatorError Report)
  | crossReferences (result : Except ValidatorError CrossReferences)
  | done

def Answer.Failed : Answer → Prop
  | .report (.error _) | .crossReferences (.error _) => True
  | _ => False

namespace Request

/-- The dialect of the report that a request takes its answer from. -/
def mode? (s : BridgeSettings) : Request → Option Dialect
  | .report mode => some mode
  | .fullReport => some s.dialect
  | .crossReferences => some .json
  | .invalidate => none

/-- The answer to a request, given the report that it takes it from. -/
def answerFrom (s : BridgeSettings) (result : Except ValidatorError Report) : Request → Answer
  | .report _ | .fullReport => .report result
  | .crossReferences =>
    match result with
    | .ok r => .crossReferences (.ok r.crossReferences)
    | .error e => .crossReferences (if s.dialect = .text then .ok ∅ else .error e)
  | .invalidate => .done

theorem eq_ok_of_answerFrom {s : BridgeSettings} {result : Except ValidatorError Report}
    {q : Request} {r : Report} (h : q.answerFrom s result = .report (.ok r)) : result = .ok r := by
  cases q with
  | report | fullReport => exact Answer.report.inj h
  | crossReferences => cases result <;> cases h
  | invalidate => cases h

theorem exists_error_of_failed {s : BridgeSettings} {result : Except ValidatorError Report}
    {q : Request} (h : (q.answerFrom s result).Failed) : ∃ e, result = .error e := by
  cases result with
  | error e => exact ⟨e, rfl⟩
  | ok r => cases q <;> cases h

theorem exists_mode {s : BridgeSettings} {q : Request} (h : q ≠ .invalidate) :
    ∃ mode, q.mode? s = some mode := by
  cases q with
  | report | fullReport | crossReferences => exact ⟨_, rfl⟩
  | invalidate => exact absurd rfl h

end Request

/-- A request and the world that it finds. -/
structure Turn (σ : Type) where
  world : σ
  request : Request

/-- A call: what was asked in which world, which programs were run, what was answered, and the bridge
before and after it. -/
structure Episode (σ : Type) where
  turn : Turn σ
  before : Bridge
  launches : List LaunchRecord
  answer : Answer
  after : Bridge

namespace Bridge

variable {σ : Type}

def answer (h : Host σ) (b : Bridge) (w : σ) : Request → Answer × Bridge × σ
  | .report mode => let (r, b, w) := b.report h mode w; (.report r, b, w)
  | .fullReport => let (r, b, w) := b.fullReport h w; (.report r, b, w)
  | .crossReferences => let (r, b, w) := b.crossReferences h w; (.crossReferences r, b, w)
  | .invalidate => (.done, b.invalidate, w)

/-- A call, with the programs that it runs as a host that writes them down has them. -/
def episode (h : Host σ) (b : Bridge) (t : Turn σ) : Episode σ where
  turn := t
  before := b
  launches := (b.answer h.recording (t.world, []) t.request).2.2.2
  answer := (b.answer h t.world t.request).1
  after := (b.answer h t.world t.request).2.1

/-- The calls for some turns, and the bridge after them. -/
def run (h : Host σ) (b : Bridge) (ts : List (Turn σ)) : List (Episode σ) × Bridge :=
  ts.foldl (fun r t => (r.1 ++ [r.2.episode h t], (r.2.episode h t).after)) ([], b)

/-- The calls since the last one that told the bridge to forget. -/
def sinceInvalidated (es : List (Episode σ)) : List (Episode σ) :=
  es.rtakeWhile fun e => e.turn.request ≠ .invalidate

variable {h : Host σ} {b b₀ : Bridge} {t : Turn σ}

theorem builtBy_congr (hs : b.settings = b₀.settings) : b.builtBy = b₀.builtBy := by
  funext r
  simp [builtBy, buildLaunch, directory, hs]

/-- A request is answered from the report in its dialect. -/
theorem answer_eq {q : Request} {mode : Dialect} (hmode : q.mode? b.settings = some mode) (w : σ) :
    b.answer h w q = (q.answerFrom b.settings (b.report h mode w).1, (b.report h mode w).2) := by
  cases q with
  | report m =>
    obtain rfl := Option.some.inj hmode
    rfl
  | fullReport =>
    obtain rfl := Option.some.inj hmode
    rfl
  | crossReferences =>
    obtain rfl := Option.some.inj hmode
    obtain ⟨ls, hreports, -⟩ := exists_reports h b .json w []
    have hsettings := hreports.settings_eq
    unfold answer crossReferences
    generalize b.report h .json w = reported at hsettings
    obtain ⟨result, b', w'⟩ := reported
    cases result with
    | ok r => rfl
    | error e =>
      have hdialect : b'.settings.dialect = b.settings.dialect := congrArg (·.dialect) hsettings
      simp only [Request.answerFrom, hdialect]
  | invalidate => cases hmode

/-- A call reports in the dialect of its request and takes its answer from there. -/
theorem exists_reports_episode {mode : Dialect} (hmode : t.request.mode? b.settings = some mode) :
    ∃ result, b.Reports h mode t.world (b.episode h t).launches result (b.episode h t).after ∧
      (b.episode h t).answer = t.request.answerFrom b.settings result := by
  obtain ⟨ls, hreports, hrecording⟩ := exists_reports h b mode t.world []
  have hlaunches : (b.episode h t).launches = ls := by
    simp only [episode, answer_eq hmode, hrecording, List.nil_append]
  refine ⟨(b.report h mode t.world).1, ?_, ?_⟩
  · rw [hlaunches]
    simp only [episode, answer_eq hmode]
    exact hreports
  · simp only [episode, answer_eq hmode]

end Bridge

/-- Has the validator been checked in a call, by the time that some of its programs had run? -/
def Episode.Checks {σ : Type} (e : Episode σ) (h : Host σ) (ls : List LaunchRecord) : Prop :=
  e.after.checked = true ∧ e.before.FindsCurrent h e.turn.world ls

namespace Bridge

variable {σ : Type}

/-- What holds of the calls of a period that began with a bridge `b₀` that remembers nothing, and of
the bridge `b` after them. -/
structure PeriodKept (h : Host σ) (b₀ : Bridge) (es : List (Episode σ)) (b : Bridge) : Prop where
  settings_eq : b.settings = b₀.settings
  /-- A report that was given is remembered. -/
  answered : ∀ e ∈ es, ∀ mode r, e.turn.request.mode? b₀.settings = some mode →
    e.answer = .report (.ok r) → b.memo.get? mode = some r
  /-- It is given again, and nothing is run for it. -/
  repeated : es.Pairwise fun e e' => ∀ mode r, e.turn.request.mode? b₀.settings = some mode →
    e.answer = .report (.ok r) → e'.turn.request.mode? b₀.settings = some mode →
    e'.launches = [] ∧ e'.answer = e'.turn.request.answerFrom b₀.settings (.ok r)
  one_build : (es.flatMap (·.launches)).countP b₀.builtBy ≤ 1
  built_checked : (∃ e ∈ es, ∃ l ∈ e.launches, b₀.builtBy l = true) → b.checked = true
  /-- The validator runs only after it has been checked. -/
  checked_first : b₀.settings.rebuild = true → ∀ past e, past ++ [e] <+: es →
    ∀ earlier l later mode, e.launches = earlier ++ l :: later → l.launch = b₀.runLaunch mode →
      (∃ c ∈ past, c.Checks h c.launches) ∨ e.Checks h earlier
  checks : b₀.settings.rebuild = true → b.checked = true → ∃ e ∈ es, e.Checks h e.launches
  /-- What is remembered was learned after the check. -/
  guarded : b₀.settings.rebuild = true → b.memo ≠ .empty → b.checked = true
  build_forgets_nothing : ∀ e ∈ es, (∃ l ∈ e.launches, b₀.builtBy l = true) →
    e.before.memo = .empty
  /-- What is remembered was read from a run of this period. -/
  read : ∀ mode r, b.memo.get? mode = some r →
    ∃ e ∈ es, ∃ o : Outcome, ⟨b₀.runLaunch mode, .ok o⟩ ∈ e.launches ∧
      o.exitedWith [0, 1] = true ∧
      (mode.read b₀.context o.stdout = .ok r ∨
        (∃ error, mode.read b₀.context o.stdout = .error error) ∧ r = .empty)
  failed : ∀ e ∈ es, e.answer.Failed → e.after.memo = e.before.memo

theorem reportOf_cases (b : Bridge) (mode : Dialect) (output : String) :
    mode.read b.context output = .ok (b.reportOf mode output) ∨
      (∃ error, mode.read b.context output = .error error) ∧ b.reportOf mode output = .empty := by
  unfold reportOf
  cases mode.read b.context output with
  | ok r => exact .inl rfl
  | error e => exact .inr ⟨⟨e, rfl⟩, rfl⟩

namespace PeriodKept

variable {h : Host σ} {b₀ b : Bridge} {es : List (Episode σ)} {t : Turn σ} {mode : Dialect}

theorem start (h : Host σ) (hmemo : b₀.memo = .empty) (hchecked : b₀.checked = false) :
    PeriodKept h b₀ [] b₀ where
  settings_eq := rfl
  answered := by simp
  repeated := .nil
  one_build := by simp
  built_checked := by simp
  checked_first := by simp
  checks := by simp [hchecked]
  guarded := by simp [hmemo]
  build_forgets_nothing := by simp
  read := by simp [hmemo]
  failed := by simp

section

variable {result : Except ValidatorError Report} {e : Episode σ}

theorem guard (k : PeriodKept h b₀ es b) : b.Guarded := by
  intro hdue
  refine Classical.not_not.1 fun hmemo => ?_
  have hchecked := k.guarded (k.settings_eq ▸ hdue.1) hmemo
  rw [hdue.2] at hchecked
  cases hchecked

/-- A dialect that was reported in is reported in again from memory. -/
theorem repeated_concat (k : PeriodKept h b₀ es b)
    (hreports : b.Reports h mode e.turn.world e.launches result e.after)
    (hmode : e.turn.request.mode? b₀.settings = some mode)
    (hanswer : e.answer = e.turn.request.answerFrom b₀.settings result) :
    ∀ e' ∈ es, ∀ mode' r, e'.turn.request.mode? b₀.settings = some mode' →
      e'.answer = .report (.ok r) → e.turn.request.mode? b₀.settings = some mode' →
      e.launches = [] ∧ e.answer = e.turn.request.answerFrom b₀.settings (.ok r) := by
  intro e' he' mode' r hmode' hanswer' hsame
  obtain rfl := Option.some.inj (hmode.symm.trans hsame)
  obtain ⟨hlaunches, hresult, -⟩ := hreports.of_remembered (k.answered e' he' mode r hmode' hanswer')
  exact ⟨hlaunches, hresult ▸ hanswer⟩

/-- There is no second build: one that succeeds is made by a bridge that has not checked, and after a
first one it has. -/
theorem one_build_concat (k : PeriodKept h b₀ es b)
    (hreports : b.Reports h mode e.turn.world e.launches result e.after) :
    ((es ++ [e]).flatMap (·.launches)).countP b₀.builtBy ≤ 1 := by
  obtain ⟨hle, hbuilds⟩ := hreports.builds
  rw [builtBy_congr k.settings_eq] at hle hbuilds
  rw [List.flatMap_append, List.countP_append, List.flatMap_singleton]
  by_cases hbuilt : ∃ l ∈ e.launches, b₀.builtBy l = true
  · have hnone : (es.flatMap (·.launches)).countP b₀.builtBy = 0 := by
      refine List.countP_eq_zero.2 fun l hl hbuiltBefore => ?_
      obtain ⟨c, hc, hlc⟩ := List.mem_flatMap.1 hl
      have hchecked := k.built_checked ⟨c, hc, l, hlc, hbuiltBefore⟩
      rw [(hbuilds hbuilt).1.2] at hchecked
      cases hchecked
    omega
  · have hnone : e.launches.countP b₀.builtBy = 0 :=
      List.countP_eq_zero.2 fun l hl hl' => hbuilt ⟨l, hl, hl'⟩
    have := k.one_build
    omega

theorem checked_first_concat (k : PeriodKept h b₀ es b)
    (hreports : b.Reports h mode e.turn.world e.launches result e.after) (hbefore : e.before = b)
    (hrebuild : b₀.settings.rebuild = true) {earlier later : List LaunchRecord} {l : LaunchRecord}
    {mode' : Dialect} (hlaunches : e.launches = earlier ++ l :: later)
    (hlaunch : l.launch = b₀.runLaunch mode') :
    (∃ c ∈ es, c.Checks h c.launches) ∨ e.Checks h earlier := by
  cases hchecked : b.checked with
  | true => exact .inl (k.checks hrebuild hchecked)
  | false =>
    rw [hlaunches] at hreports
    rw [← runLaunch_congr k.settings_eq] at hlaunch
    rw [Episode.Checks, hbefore]
    exact .inr (hreports.findsCurrent_of_run hlaunch ⟨k.settings_eq ▸ hrebuild, hchecked⟩)

theorem read_concat (k : PeriodKept h b₀ es b)
    (hreports : b.Reports h mode e.turn.world e.launches result e.after) {mode' : Dialect}
    {r : Report} (hmemo : e.after.memo.get? mode' = some r) :
    ∃ c ∈ es ++ [e], ∃ o : Outcome, ⟨b₀.runLaunch mode', .ok o⟩ ∈ c.launches ∧
      o.exitedWith [0, 1] = true ∧
      (mode'.read b₀.context o.stdout = .ok r ∨
        (∃ error, mode'.read b₀.context o.stdout = .error error) ∧ r = .empty) := by
  rcases hreports.get?_memo k.guard hmemo with hold | ⟨o, hrun, hexit, rfl⟩
  · obtain ⟨c, hc, hread⟩ := k.read mode' r hold
    exact ⟨c, List.mem_append_left _ hc, hread⟩
  · rw [reportOf_congr k.settings_eq, ← runLaunch_congr k.settings_eq]
    exact ⟨e, by simp, o, hrun, hexit, b₀.reportOf_cases mode' o.stdout⟩

end

/-- A call that is not an invalidation keeps what holds of the period. -/
theorem concat (k : PeriodKept h b₀ es b) (hmode : t.request.mode? b₀.settings = some mode) :
    PeriodKept h b₀ (es ++ [b.episode h t]) (b.episode h t).after := by
  obtain ⟨result, hreports, hanswer⟩ :=
    exists_reports_episode (h := h) (t := t) (k.settings_eq ▸ hmode)
  rw [k.settings_eq] at hanswer
  exact {
    settings_eq := hreports.settings_eq.trans k.settings_eq
    answered := by
      intro e he mode' r hmode' hr
      rcases List.mem_append.1 he with he | he
      · exact hreports.get?_memo_of_get?_memo k.guard (k.answered e he mode' r hmode' hr)
      · obtain rfl := List.mem_singleton.1 he
        obtain rfl := Option.some.inj (hmode.symm.trans hmode')
        obtain rfl := Request.eq_ok_of_answerFrom (hanswer.symm.trans hr)
        exact hreports.get?_memo_of_ok
    repeated := by
      refine List.pairwise_append.2 ⟨k.repeated, List.pairwise_singleton _ _, ?_⟩
      intro e' he' e he
      obtain rfl := List.mem_singleton.1 he
      exact k.repeated_concat hreports hmode hanswer e' he'
    one_build := k.one_build_concat hreports
    built_checked := by
      rintro ⟨e, he, hbuilt⟩
      rcases List.mem_append.1 he with he | he
      · exact hreports.checked_of_checked (k.built_checked ⟨e, he, hbuilt⟩)
      · obtain rfl := List.mem_singleton.1 he
        rw [← builtBy_congr k.settings_eq] at hbuilt
        exact (hreports.builds.2 hbuilt).2
    checked_first := by
      intro hrebuild past e hpast earlier l later mode' hlaunches hlaunch
      rcases List.prefix_concat_iff.1 hpast with heq | hbegins
      · obtain ⟨rfl, hlast⟩ := List.append_inj' heq rfl
        obtain rfl := List.singleton_inj.1 hlast
        exact k.checked_first_concat hreports rfl hrebuild hlaunches hlaunch
      · exact k.checked_first hrebuild past e hbegins earlier l later mode' hlaunches hlaunch
    checks := by
      intro hrebuild hafter
      cases hchecked : b.checked with
      | true =>
        obtain ⟨c, hc, hchecks⟩ := k.checks hrebuild hchecked
        exact ⟨c, List.mem_append_left _ hc, hchecks⟩
      | false =>
        have hdue : b.Unchecked := ⟨k.settings_eq ▸ hrebuild, hchecked⟩
        exact ⟨_, by simp, hafter, hreports.findsCurrent_of_checked hdue hafter⟩
    guarded := by
      intro hrebuild hmemo
      have hsettings := hreports.settings_eq.trans k.settings_eq
      cases hafter : (b.episode h t).after.checked with
      | true => rfl
      | false =>
        exact absurd (hreports.guarded k.guard ⟨hsettings ▸ hrebuild, hafter⟩) hmemo
    build_forgets_nothing := by
      intro e he hbuilt
      rcases List.mem_append.1 he with he | he
      · exact k.build_forgets_nothing e he hbuilt
      · obtain rfl := List.mem_singleton.1 he
        rw [← builtBy_congr k.settings_eq] at hbuilt
        exact k.guard (hreports.builds.2 hbuilt).1
    read := fun _ _ => k.read_concat hreports
    failed := by
      intro e he hfailed
      rcases List.mem_append.1 he with he | he
      · exact k.failed e he hfailed
      · obtain rfl := List.mem_singleton.1 he
        rw [hanswer] at hfailed
        obtain ⟨error, rfl⟩ := Request.exists_error_of_failed hfailed
        exact hreports.memo_eq_of_error k.guard }

end PeriodKept

variable {h : Host σ} {b : Bridge}

theorem run_concat (ts : List (Turn σ)) (t : Turn σ) :
    run h b (ts ++ [t]) =
      ((run h b ts).1 ++ [(run h b ts).2.episode h t], ((run h b ts).2.episode h t).after) := by
  rw [run, List.foldl_append]
  rfl

/-- A bridge that is told to forget is as it was at the start. -/
theorem invalidate_eq {d : Disk} {s : BridgeSettings} (hs : b.settings = (start d s).settings) :
    b.invalidate = start d s := by
  rw [invalidate, hs]
  rfl

/-- In every sequence of calls, whatever each call finds in the world and whatever the host does, the
calls since the last invalidation are such as `PeriodKept` says. -/
theorem run_periodKept (h : Host σ) (d : Disk) (s : BridgeSettings) (ts : List (Turn σ)) :
    PeriodKept h (start d s) (sinceInvalidated (run h (start d s) ts).1) (run h (start d s) ts).2 := by
  induction ts using List.reverseRecOn with
  | nil => exact .start h rfl rfl
  | append_singleton ts t ih =>
    rw [run_concat, sinceInvalidated, List.rtakeWhile_concat]
    by_cases hrequest : t.request = .invalidate
    · have hafter : ((run h (start d s) ts).2.episode h t).after = start d s := by
        simp only [episode, hrequest, answer, invalidate_eq ih.settings_eq]
      have hturn : ((run h (start d s) ts).2.episode h t).turn.request = .invalidate := hrequest
      simp only [hturn, hafter]
      exact .start h rfl rfl
    · have hturn : ((run h (start d s) ts).2.episode h t).turn.request ≠ .invalidate := hrequest
      obtain ⟨mode, hmode⟩ := Request.exists_mode (s := (start d s).settings) hrequest
      simp only [hturn, ne_eq, not_false_eq_true, decide_true, if_true]
      exact ih.concat hmode

end Bridge

end SpecCoverage
