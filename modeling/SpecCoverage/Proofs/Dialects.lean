-- SUMMARY: The log and the document of the same findings are read alike, but for languages that are found more than once.
import SpecCoverage.Proofs.LogReading
import SpecCoverage.Report.OfDocument

/-!
# The two dialects

A `Finding` is what the validator knows about a language of a feature before it writes it down. A log
prints findings, a document lists them, and either is read back as the verdicts of the findings. Where
a feature has several findings for one language, the log gives the last of them and the document the
first, so the dialects agree just when these two have the same verdict.
-/
namespace SpecCoverage

open Text PrintedLog

/-! ## Findings -/

/-- What is found for a language of a feature. -/
structure Finding where
  /-- The language as the validator writes it. -/
  name : String
  /-- The test file, where there is one. -/
  path? : Option String
  /-- Are all steps implemented? -/
  complete : Bool
  flagged : SortedSet String

namespace Finding

def language (c : OutputContext) (f : Finding) : Language :=
  c.policy.resolve f.name

/-- A language implements a feature with a test file in which all steps are implemented and no
scenario is flagged. -/
def verdict (c : OutputContext) (f : Finding) : LanguageVerdict where
  language := f.language c
  implemented := f.path?.isSome && f.complete && f.flagged.isEmpty
  sourcePath? := f.path?.map c.relativize
  flagged := f.flagged
  unflagged := if f.path?.isSome then .pass else .fail

end Finding

/-- What is found for a feature, in the order in which it is written. -/
structure FeatureFindings where
  path : String
  findings : List Finding

namespace FeatureFindings

variable {c : OutputContext} {ff : FeatureFindings}

/-- The verdicts of the findings by language. -/
def entries (c : OutputContext) (ff : FeatureFindings) : List (Language × LanguageVerdict) :=
  ff.findings.map fun f => (f.language c, f.verdict c)

/-- The last finding of each language. -/
def inLog (c : OutputContext) (ff : FeatureFindings) : FeatureVerdict :=
  ⟨c.relativize ff.path, .ofList (ff.entries c)⟩

/-- The first finding of each language. -/
def inDocument (c : OutputContext) (ff : FeatureFindings) : FeatureVerdict :=
  ⟨c.relativize ff.path, .ofListFirst (ff.entries c)⟩

/-- The first and the last finding of each language have the same verdict. -/
def Settled (c : OutputContext) (ff : FeatureFindings) : Prop :=
  ∀ l, (ff.findings.find? (·.language c = l)).map (·.verdict c) =
    (ff.findings.reverse.find? (·.language c = l)).map (·.verdict c)

theorem inLog_eq_inDocument_iff : ff.inLog c = ff.inDocument c ↔ ff.Settled c := by
  have hlast (l : Language) : (ff.inLog c).languages.get? l =
      (ff.findings.reverse.find? (·.language c = l)).map (·.verdict c) := by
    rw [inLog, SortedMap.get?_ofList, entries, ← List.map_reverse, List.find?_map, Option.map_map]
    rfl
  have hfirst (l : Language) : (ff.inDocument c).languages.get? l =
      (ff.findings.find? (·.language c = l)).map (·.verdict c) := by
    rw [inDocument, SortedMap.get?_ofListFirst, entries, List.find?_map, Option.map_map]
    rfl
  constructor
  · intro h l
    rw [← hfirst, ← hlast, h]
  · intro h
    have hlanguages : (ff.inLog c).languages = (ff.inDocument c).languages :=
      SortedMap.ext_get? fun l => by rw [hlast, hfirst, h l]
    exact congrArg (FeatureVerdict.mk _) hlanguages

/-- Findings for different languages are settled. -/
theorem settled_of_nodup (h : (ff.findings.map (·.language c)).Nodup) : ff.Settled c := by
  intro l
  have hfind : ff.findings.find? (·.language c = l) =
      ff.findings.reverse.find? (·.language c = l) := by
    refine find?_eq_of_perm (List.reverse_perm _).symm fun f hf g hg hfl hgl => ?_
    have hfl : f.language c = l := of_decide_eq_true hfl
    have hgl : g.language c = l := of_decide_eq_true hgl
    exact List.inj_on_of_nodup_map h hf hg (hfl.trans hgl.symm)
  rw [hfind]

end FeatureFindings

/-- Lists whose elements correspond have the same images, if elements that correspond have. -/
theorem map_eq_map_of_forall₂ {α β γ : Type} {R : α → β → Prop} {f : α → γ} {g : β → γ}
    {xs : List α} {ys : List β} (h : List.Forall₂ R xs ys) (hfg : ∀ x y, R x y → f x = g y) :
    xs.map f = ys.map g := by
  induction h with
  | nil => rfl
  | cons hxy _ ih => rw [List.map_cons, List.map_cons, hfg _ _ hxy, ih]

/-! ## Findings in a log -/

namespace PrintedLog

/-- The language line and the lines below it tell a finding. Only the glyph of a finding with flagged
scenarios may be either. -/
structure Entry.Tells (e : Entry) (f : Finding) : Prop where
  name : e.name = f.name
  path : e.outcome.path? = f.path?
  scenarios : ∀ s, s ∈ e.scenarios ↔ s ∈ f.flagged
  passed : e.scenarios = [] → e.outcome.isPassed = (f.path?.isSome && f.complete)

theorem Entry.Tells.verdict_eq {e : Entry} {f : Finding} (h : e.Tells f) (c : OutputContext) :
    e.verdict c = f.verdict c := by
  have hflagged : SortedSet.ofList e.scenarios = f.flagged :=
    SortedSet.eq_of_mem_iff fun s => SortedSet.mem_ofList.trans (h.scenarios s)
  have hempty : e.scenarios.isEmpty = f.flagged.isEmpty := by
    rw [← hflagged, SortedSet.isEmpty_ofList]
  have himplemented : (e.outcome.isPassed && e.scenarios.isEmpty) =
      (f.path?.isSome && f.complete && f.flagged.isEmpty) := by
    rw [← hempty]
    cases hscenarios : e.scenarios with
    | nil => rw [h.passed hscenarios]
    | cons s ss => simp
  simp only [Entry.verdict, Finding.verdict, Entry.language, Finding.language, h.name, h.path,
    hflagged, himplemented]

/-- The lines of a block tell the findings for a feature. -/
structure Block.Tells (b : Block) (ff : FeatureFindings) : Prop where
  path : b.path = ff.path
  entries : List.Forall₂ Entry.Tells b.entries ff.findings

theorem Block.Tells.verdict_eq {b : Block} {ff : FeatureFindings} (h : b.Tells ff)
    (c : OutputContext) : b.verdict c = ff.inLog c := by
  have hentries : (b.entries.map fun e => (e.language c, e.verdict c)) = ff.entries c := by
    refine map_eq_map_of_forall₂ h.entries fun e f hef => ?_
    have hlanguage : e.language c = f.language c := congrArg c.policy.resolve hef.name
    rw [hlanguage, hef.verdict_eq c]
  rw [Block.verdict, FeatureFindings.inLog, h.path, hentries]

/-- What the language line of a finding says of its test file. -/
def outcomeOf (f : Finding) : Outcome :=
  match f.path? with
  | none => .noFile
  | some path => if f.complete && f.flagged.isEmpty then .passed path else .failed path

/-- The flagged scenarios of a finding as methods below a header. -/
def marksOf (f : Finding) : List Mark :=
  if f.flagged.isEmpty then [] else .header :: f.flagged.toList.map (.method "test" none)

/-- A finding as a language line with its flagged scenarios below it. -/
def printed (f : Finding) : Entry :=
  ⟨f.name, outcomeOf f, marksOf f⟩

theorem scenarios_printed (f : Finding) : (printed f).scenarios = f.flagged.toList := by
  change (marksOf f).filterMap Mark.scenario? = _
  unfold marksOf
  split
  · rename_i hempty
    exact (List.isEmpty_iff.1 hempty).symm
  · rw [List.filterMap_cons_none rfl, List.filterMap_map]
    exact List.filterMap_some

theorem tells_printed (f : Finding) : (printed f).Tells f where
  name := rfl
  path := by
    change (outcomeOf f).path? = f.path?
    unfold outcomeOf
    split
    · rename_i hpath
      exact hpath.symm
    · rename_i hpath
      split <;> exact hpath.symm
  scenarios := by
    intro s
    rw [scenarios_printed, SortedSet.mem_def]
  passed := by
    intro hnone
    rw [scenarios_printed] at hnone
    have hempty : f.flagged.isEmpty = true := List.isEmpty_iff.2 hnone
    change (outcomeOf f).isPassed = _
    rw [outcomeOf, hempty, Bool.and_true]
    cases f.path? with
    | none => rfl
    | some path => cases f.complete <;> rfl

def printedBlock (ff : FeatureFindings) : Block :=
  ⟨ff.path, ff.findings.map printed⟩

theorem tells_printedBlock (ff : FeatureFindings) : (printedBlock ff).Tells ff where
  path := rfl
  entries := List.forall₂_map_left_iff.2 (List.forall₂_same.2 fun f _ => tells_printed f)

/-- A log of readable blocks, laid out in any way, that tells findings. Where nothing is found there
is no other output either. -/
inductive Logs (ffs : List FeatureFindings) : String → Prop
  | laid {blocks : List Block} {laid : List (List Char)} :
    List.Forall₂ Block.Tells blocks ffs → (∀ b ∈ blocks, b.Readable) → (∀ l ∈ laid, '\n' ∉ l) →
      Laid (blocks.flatMap Block.lines) laid → (blocks = [] → countWritten laid = 0) →
        Logs ffs (String.ofList (joinLines laid))

theorem Logs.ofLog_eq {ffs : List FeatureFindings} {log : String} (h : Logs ffs log)
    (c : OutputContext) : Report.ofLog c log = .ok ⟨ffs.map (·.inLog c), ∅⟩ := by
  obtain ⟨htells, hblocks, hlines, hlaid, hnone⟩ := h
  rename_i blocks laid
  have hverdicts : blocks.map (·.verdict c) = ffs.map (·.inLog c) :=
    map_eq_map_of_forall₂ htells fun b ff hb => hb.verdict_eq c
  have hread : (laid.foldl (LogReading.readLine c) .start).allFeatures.reverse =
      ffs.map (·.inLog c) := by
    rw [LogReading.foldl_readLine_laid hlaid, LogReading.allFeatures_foldl_blocks hblocks]
    simpa [LogReading.start, LogReading.allFeatures] using hverdicts
  rw [Report.ofLog_joinLines hlines hread, if_neg]
  rintro ⟨hempty, hwritten⟩
  rw [← hverdicts, List.map_eq_nil_iff] at hempty
  exact hwritten (hnone hempty)

/-- The log of findings without anything besides. -/
def logOf (ffs : List FeatureFindings) : String :=
  String.ofList (joinLines ((ffs.map printedBlock).flatMap Block.lines))

theorem logs_logOf {ffs : List FeatureFindings} (hread : ∀ ff ∈ ffs, (printedBlock ff).Readable)
    (hlines : ∀ l ∈ (ffs.map printedBlock).flatMap Block.lines, '\n' ∉ l) :
    Logs ffs (logOf ffs) := by
  refine .laid ?_ (List.forall_mem_map.2 hread) hlines (laid_self _) ?_
  · exact List.forall₂_map_left_iff.2 (List.forall₂_same.2 fun ff _ => tells_printedBlock ff)
  · intro hnone
    rw [hnone]
    rfl

end PrintedLog

/-! ## Findings in a document -/

/-- The result of a language states a finding. Scenarios are flagged by their methods or in
warnings. -/
structure LanguageEntry.States (e : LanguageEntry) (f : Finding) : Prop where
  name : e.language = f.name
  found : e.testFileFound = f.path?.isSome
  path : e.testFileFound = true → e.testFilePath? = f.path?
  complete : f.complete = true ↔ e.missingSteps = [] ∧ e.implementedSteps ≠ []
  scenarios : ∀ s, s ∈ e.flaggedMethods ∨ (∃ w ∈ e.warnings, missingMethod? w.toList = some s) ↔
    s ∈ f.flagged

theorem LanguageEntry.States.verdict_eq {e : LanguageEntry} {f : Finding} (h : e.States f)
    (c : OutputContext) : e.verdict c = f.verdict c := by
  have hflagged : e.flagged = f.flagged := by
    refine SortedSet.eq_of_mem_iff fun s => ?_
    rw [LanguageEntry.flagged, SortedSet.mem_ofList, List.mem_append, List.mem_filterMap]
    exact h.scenarios s
  have hcomplete : (e.missingSteps.isEmpty && !e.implementedSteps.isEmpty) = f.complete := by
    rw [Bool.eq_iff_iff, h.complete]
    simp
  have hpath : (if f.path?.isSome then e.testFilePath?.map c.relativize else none) =
      f.path?.map c.relativize := by
    cases hfound : f.path? with
    | none => rfl
    | some path =>
      have hentry : e.testFilePath? = some path := by
        rw [h.path (h.found.trans (by rw [hfound]; rfl)), hfound]
      rw [hentry]
      rfl
  simp only [LanguageEntry.verdict, Finding.verdict, Finding.language, h.name, h.found, hpath,
    hflagged, Bool.and_assoc, ← hcomplete]

/-- A finding as a result whose flagged scenarios are known by their methods. -/
def Finding.listed (f : Finding) : LanguageEntry where
  language := f.name
  testFileFound := f.path?.isSome
  testFilePath? := f.path?
  missingSteps := []
  implementedSteps := if f.complete then ["log in"] else []
  warnings := []
  flaggedMethods := f.flagged.toList

theorem Finding.states_listed (f : Finding) : f.listed.States f where
  name := rfl
  found := rfl
  path := fun _ => rfl
  complete := by
    rw [listed]
    cases f.complete <;> simp
  scenarios := by
    intro s
    simp [listed, SortedSet.mem_def]

structure FeatureEntry.States (e : FeatureEntry) (ff : FeatureFindings) : Prop where
  path : e.featureFile = ff.path
  languages : List.Forall₂ LanguageEntry.States e.languages ff.findings

theorem FeatureEntry.States.verdict_eq {e : FeatureEntry} {ff : FeatureFindings} (h : e.States ff)
    (c : OutputContext) : e.verdict c = ff.inDocument c := by
  have hentries : (e.languages.map fun l => ((l.verdict c).language, l.verdict c)) =
      ff.entries c := by
    refine map_eq_map_of_forall₂ h.languages fun l f hlf => ?_
    rw [hlf.verdict_eq c]
    rfl
  change FeatureVerdict.mk (c.relativize e.featureFile) (.ofListFirst
    (e.languages.map fun l => ((l.verdict c).language, l.verdict c))) = ff.inDocument c
  rw [hentries, h.path]
  rfl

def FeatureFindings.listed (ff : FeatureFindings) : FeatureEntry :=
  ⟨ff.path, ff.findings.map Finding.listed⟩

theorem FeatureFindings.states_listed (ff : FeatureFindings) : ff.listed.States ff where
  path := rfl
  languages := List.forall₂_map_left_iff.2 (List.forall₂_same.2 fun f _ => f.states_listed)

/-- A text that reads as a document of findings. -/
def Documents (ffs : List FeatureFindings) (output : String) : Prop :=
  ∃ d, ReportDocument.read? output = some d ∧ List.Forall₂ FeatureEntry.States d.features ffs

theorem Documents.exists_ofJson_eq {ffs : List FeatureFindings} {output : String}
    (h : Documents ffs output) (c : OutputContext) :
    ∃ crossReferences, Report.ofJson c output = .ok ⟨ffs.map (·.inDocument c), crossReferences⟩ := by
  obtain ⟨d, hread, hstates⟩ := h
  have hverdicts : d.features.map (·.verdict c) = ffs.map (·.inDocument c) :=
    map_eq_map_of_forall₂ hstates fun e ff he => he.verdict_eq c
  refine ⟨(d.report c).crossReferences, ?_⟩
  rw [Report.ofJson, hread, ← hverdicts]
  rfl

theorem documents_of_read? {ffs : List FeatureFindings} {output : String}
    (h : ReportDocument.read? output = some ⟨ffs.map (·.listed), none, none⟩) :
    Documents ffs output :=
  ⟨_, h, List.forall₂_map_left_iff.2 (List.forall₂_same.2 fun ff _ => ff.states_listed)⟩

/-! ## Agreement -/

/-- Log and document of the same findings are both read, and give the same verdicts just when no
feature has a language whose first and last finding differ in verdict. They do where every feature
has one finding for each language. -/
theorem dialects_agree_iff (c : OutputContext) {ffs : List FeatureFindings} {log output : String}
    (hlog : Logs ffs log) (hdocument : Documents ffs output) :
    ∃ ofLog ofDocument, Report.ofLog c log = .ok ofLog ∧ Report.ofJson c output = .ok ofDocument ∧
      ofLog.verdicts = ffs.map (·.inLog c) ∧ ofDocument.verdicts = ffs.map (·.inDocument c) ∧
      (ofLog.verdicts = ofDocument.verdicts ↔ ∀ ff ∈ ffs, ff.Settled c) ∧
      ((∀ ff ∈ ffs, (ff.findings.map (·.language c)).Nodup) →
        ofLog.verdicts = ofDocument.verdicts) := by
  obtain ⟨crossReferences, hjson⟩ := hdocument.exists_ofJson_eq c
  have hiff : ffs.map (·.inLog c) = ffs.map (·.inDocument c) ↔ ∀ ff ∈ ffs, ff.Settled c := by
    rw [List.map_inj_left]
    simp only [FeatureFindings.inLog_eq_inDocument_iff]
  refine ⟨_, _, hlog.ofLog_eq c, hjson, rfl, rfl, hiff, ?_⟩
  intro hdistinct
  exact hiff.2 fun ff hff => FeatureFindings.settled_of_nodup (hdistinct ff hff)

/-- Two languages, unless both names stand for one. -/
def loginFindings : FeatureFindings where
  path := "login.feature"
  findings := [⟨"Rust", some "login.rs", true, ∅⟩, ⟨"Core", none, false, ∅⟩]

def loginDocument : List String :=
  ["\x7b\"validation_results\": [",
    "\x7b\"feature_file\": \"login.feature\",",
    "\"validations\": [",
    "\x7b\"language\": \"Rust\",",
    "\"test_file_found\": true,",
    "\"test_file_path\": \"login.rs\",",
    "\"implemented_steps\": [\"log in\"]\x7d,",
    "\x7b\"language\": \"Core\"\x7d]\x7d]\x7d"]

/-- The document of `loginFindings`. -/
def loginOutput : String :=
  String.ofList (joinLines (loginDocument.map String.toList))

theorem logs_login : Logs [loginFindings] (logOf [loginFindings]) :=
  logs_logOf (by decide +kernel) (by decide +kernel)

theorem documents_login : Documents [loginFindings] loginOutput := by
  apply documents_of_read?
  rw [ReportDocument.read?, Json.read?, loginOutput, String.toList_ofList]
  decide +kernel

/-- A workspace in which every name stands for a language of its own. -/
def plainRepo : OutputContext :=
  ⟨"/repo", .ofNames [] []⟩

theorem dialects_agree_iff_login :
    Logs [loginFindings] (logOf [loginFindings]) ∧ Documents [loginFindings] loginOutput ∧
      ∃ ofLog ofDocument, Report.ofLog plainRepo (logOf [loginFindings]) = .ok ofLog ∧
        Report.ofJson plainRepo loginOutput = .ok ofDocument ∧
        ofLog.verdicts = ofDocument.verdicts := by
  obtain ⟨ofLog, ofDocument, hofLog, hofDocument, -, -, -, hagree⟩ :=
    dialects_agree_iff plainRepo logs_login documents_login
  have hdistinct : ∀ ff ∈ [loginFindings], (ff.findings.map (·.language plainRepo)).Nodup := by
    decide +kernel
  exact ⟨logs_login, documents_login, ofLog, ofDocument, hofLog, hofDocument, hagree hdistinct⟩

/-- Where both names stand for one language, as they do unless aliases are changed, the log gives
the second finding and the document the first. -/
theorem not_dialects_agree_login :
    Logs [loginFindings] (logOf [loginFindings]) ∧ Documents [loginFindings] loginOutput ∧
      ∃ ofLog ofDocument, Report.ofLog repo (logOf [loginFindings]) = .ok ofLog ∧
        Report.ofJson repo loginOutput = .ok ofDocument ∧
        ofLog.verdicts ≠ ofDocument.verdicts := by
  have hdiffer : [loginFindings].map (·.inLog repo) ≠ [loginFindings].map (·.inDocument repo) := by
    decide +kernel
  obtain ⟨crossReferences, hjson⟩ := documents_login.exists_ofJson_eq repo
  exact ⟨logs_login, documents_login, _, _, logs_login.ofLog_eq repo, hjson, hdiffer⟩

end SpecCoverage
