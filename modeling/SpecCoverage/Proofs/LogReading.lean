-- SUMMARY: Reading the text log undoes printing it, whichever way the lines are laid out.
import SpecCoverage.Proofs.LogLines

/-!
# Reading the printed log

Lines are read in order into the feature and the language that stand open. Noise leaves everything
as it is, a mark changes the open language alone, and a language or feature line opens the next one.
So after a block has been read its verdict stands as it will be reported.
-/
namespace SpecCoverage

open Text PrintedLog

/-! ## Flags -/

/-- Flag scenarios. A language with a flagged scenario has not implemented the feature. -/
def LanguageVerdict.flagAll (v : LanguageVerdict) (scenarios : List String) : LanguageVerdict :=
  { v with
    flagged := v.flagged.insertAll scenarios
    implemented := v.implemented && scenarios.isEmpty }

namespace LanguageVerdict

theorem flagAll_nil (v : LanguageVerdict) : v.flagAll [] = v := by
  simp [flagAll, SortedSet.insertAll]

theorem flagAll_append (v : LanguageVerdict) (ss ts : List String) :
    (v.flagAll ss).flagAll ts = v.flagAll (ss ++ ts) := by
  have hflagged : (v.flagged.insertAll ss).insertAll ts = v.flagged.insertAll (ss ++ ts) := by
    refine SortedSet.eq_of_mem_iff fun s => ?_
    simp only [SortedSet.mem_insertAll, List.mem_append, or_assoc]
  have hempty : (ss ++ ts).isEmpty = (ss.isEmpty && ts.isEmpty) := by cases ss <;> simp
  simp [flagAll, hflagged, hempty, Bool.and_assoc]

end LanguageVerdict

namespace LogReading

/-- Read a line as it stands in the log. -/
def readLine (c : OutputContext) (r : LogReading) (l : List Char) : LogReading :=
  r.step (LogLine.ofText c (trim l))

variable {c : OutputContext}

/-! ## Layout -/

theorem readLine_of_trim_eq_nil (r : LogReading) {l : List Char} (h : trim l = []) :
    readLine c r l = r := by
  rw [readLine, h]
  rfl

theorem readLine_noise (r : LogReading) {l : List Char} (h : IsNoise l) : readLine c r l = r := by
  by_cases hl : trim l = []
  · exact readLine_of_trim_eq_nil r hl
  · rw [readLine, ofText_noise h hl]
    rfl

/-- The layout of lines makes no difference to what is read. -/
theorem foldl_readLine_laid {ls laid : List (List Char)} (h : Laid ls laid) (r : LogReading) :
    laid.foldl (readLine c) r = ls.foldl (readLine c) r := by
  induction h generalizing r with
  | nil => rfl
  | line before after hbefore hafter _ ih =>
    rw [List.foldl_cons, List.foldl_cons, ih, readLine, trim_append_of_allBlank _ hbefore hafter,
      ← readLine]
  | noise hl _ ih => rw [List.foldl_cons, readLine_noise r hl, ih]

/-- Blank lines may be left out. -/
theorem foldl_step_filter (ls : List (List Char)) (r : LogReading) :
    (((ls.map trim).filter (!·.isEmpty)).map (LogLine.ofText c)).foldl step r =
      ls.foldl (readLine c) r := by
  induction ls generalizing r with
  | nil => rfl
  | cons l ls ih =>
    by_cases hl : trim l = []
    · simp [hl, ih, readLine_of_trim_eq_nil r hl]
    · simp [hl, ih, readLine]

/-! ## Marks -/

/-- A feature whose last language has verdict `v`. -/
def openAt (path : String) (languages : SortedMap Language LanguageVerdict) (v : LanguageVerdict)
    (under : Bool) : OpenFeature :=
  ⟨⟨path, languages.insert v.language v⟩, some v.language, under⟩

theorem flag_openAt (path : String) (languages : SortedMap Language LanguageVerdict)
    (v : LanguageVerdict) (under : Bool) (scenario : String) :
    (openAt path languages v under).flag scenario =
      openAt path languages (v.flagAll [scenario]) under := by
  have hflag : v.flagAll [scenario] =
      { v with flagged := v.flagged.insert scenario, implemented := false } := by
    simp [LanguageVerdict.flagAll, SortedSet.insertAll]
  simp [openAt, OpenFeature.flag, SortedMap.get?_insert, SortedMap.insert_insert, hflag]

/-- A mark flags its scenario for the open language and changes nothing else. -/
theorem step_mark (closed : List FeatureVerdict) (path : String)
    (languages : SortedMap Language LanguageVerdict) {m : Mark} {ms : List Mark} {under : Bool}
    (v : LanguageVerdict) (h : Mark.headed under (m :: ms) = true) :
    ∃ under', Mark.headed under' ms = true ∧
      step ⟨closed, some (openAt path languages v under)⟩ m.logLine =
        ⟨closed, some (openAt path languages (v.flagAll m.scenario?.toList) under')⟩ := by
  cases m with
  | header =>
    refine ⟨true, h, ?_⟩
    rw [Mark.scenario?, Option.toList_none, v.flagAll_nil]
    rfl
  | method name line? scenario =>
    obtain ⟨hunder, hms⟩ := Bool.and_eq_true_iff.1 h
    subst hunder
    refine ⟨true, hms, ?_⟩
    rw [Mark.scenario?, Option.toList_some, ← flag_openAt]
    rfl
  | warning scenario place? =>
    refine ⟨under, h, ?_⟩
    rw [Mark.scenario?, Option.toList_some, ← flag_openAt]
    rfl

/-- Marks flag their scenarios for the open language and change nothing else. -/
theorem foldl_marks (closed : List FeatureVerdict) (path : String)
    (languages : SortedMap Language LanguageVerdict) {ms : List Mark} {under : Bool}
    (v : LanguageVerdict) (hread : ∀ m ∈ ms, m.Readable) (h : Mark.headed under ms = true) :
    ∃ under', (ms.map Mark.line).foldl (readLine c)
        ⟨closed, some (openAt path languages v under)⟩ =
      ⟨closed, some (openAt path languages (v.flagAll (ms.filterMap Mark.scenario?)) under')⟩ := by
  induction ms generalizing v under with
  | nil => exact ⟨under, by rw [List.filterMap_nil, v.flagAll_nil]; rfl⟩
  | cons m ms ih =>
    -- The flags so far are in `v`; whether a header stands above is all else that is carried along.
    obtain ⟨under₁, hhead, hstep⟩ := step_mark closed path languages v h
    obtain ⟨under₂, hrest⟩ := ih _ (fun m' hm' => hread m' (by simp [hm'])) hhead
    refine ⟨under₂, ?_⟩
    have hscenarios : (m :: ms).filterMap Mark.scenario? =
        m.scenario?.toList ++ ms.filterMap Mark.scenario? := by
      cases hm : m.scenario? <;> simp [hm]
    rw [List.map_cons, List.foldl_cons, readLine, Mark.ofText_line (hread m (by simp)), hstep,
      hrest, LanguageVerdict.flagAll_append, hscenarios]

/-! ## Blocks -/

theorem flagAll_opening (e : Entry) : (e.opening c).flagAll e.scenarios = e.verdict c := rfl

/-- The lines of a language set its verdict in the open feature. -/
theorem foldl_entry (c : OutputContext) (closed : List FeatureVerdict) {e : Entry} (h : e.Readable)
    (f : OpenFeature) :
    ∃ under, e.lines.foldl (readLine c) ⟨closed, some f⟩ =
      ⟨closed, some (openAt f.verdict.path f.verdict.languages (e.verdict c) under)⟩ := by
  obtain ⟨under, hmarks⟩ := foldl_marks closed f.verdict.path f.verdict.languages (e.opening c)
    h.marks h.headed
  refine ⟨under, ?_⟩
  rw [← flagAll_opening, Entry.scenarios, ← hmarks, Entry.lines, List.foldl_cons, readLine,
    Entry.ofText_head h]
  rfl

/-- The lines of several languages set their verdicts one after the other. -/
theorem foldl_entries (c : OutputContext) (closed : List FeatureVerdict) {es : List Entry}
    (h : ∀ e ∈ es, e.Readable) (f : OpenFeature) :
    ∃ f', (es.flatMap Entry.lines).foldl (readLine c) ⟨closed, some f⟩ = ⟨closed, some f'⟩ ∧
      f'.verdict = ⟨f.verdict.path, (es.map fun e => (e.language c, e.verdict c)).foldl
        (fun m entry => m.insert entry.1 entry.2) f.verdict.languages⟩ := by
  induction es generalizing f with
  | nil => exact ⟨f, rfl, rfl⟩
  | cons e es ih =>
    obtain ⟨under, hentry⟩ := foldl_entry c closed (h e (by simp)) f
    obtain ⟨f', hrest, hverdict⟩ := ih (fun e' he' => h e' (by simp [he']))
      (openAt f.verdict.path f.verdict.languages (e.verdict c) under)
    refine ⟨f', ?_, hverdict⟩
    rw [List.flatMap_cons, List.foldl_append, hentry, hrest]

/-- The lines of a block add its verdict to what was read before. -/
theorem allFeatures_foldl_block {b : Block} (h : b.Readable) (r : LogReading) :
    (b.lines.foldl (readLine c) r).allFeatures = b.verdict c :: r.allFeatures := by
  have hhead : readLine c r b.head =
      ⟨r.allFeatures, some ⟨⟨c.relativize b.path, ∅⟩, none, false⟩⟩ := by
    rw [readLine, Block.ofText_head]
    rfl
  obtain ⟨f, hentries, hverdict⟩ := foldl_entries c r.allFeatures h
    ⟨⟨c.relativize b.path, ∅⟩, none, false⟩
  rw [Block.lines, List.foldl_cons, hhead, hentries]
  change f.verdict :: r.allFeatures = _
  rw [hverdict, SortedMap.foldl_insert_eq_ofList]
  rfl

/-- The lines of a log add the verdicts of its blocks, in order. -/
theorem allFeatures_foldl_blocks {bs : List Block} (h : ∀ b ∈ bs, b.Readable) (r : LogReading) :
    ((bs.flatMap Block.lines).foldl (readLine c) r).allFeatures =
      (bs.map (·.verdict c)).reverse ++ r.allFeatures := by
  induction bs generalizing r with
  | nil => rfl
  | cons b bs ih =>
    rw [List.flatMap_cons, List.foldl_append, ih fun b' hb' => h b' (by simp [hb']),
      allFeatures_foldl_block (h b (by simp))]
    simp

end LogReading

/-! ## Reading undoes printing -/

/-- The number of lines that are not blank. -/
def PrintedLog.countWritten (laid : List (List Char)) : Nat :=
  laid.countP fun l => !(trim l).isEmpty

/-- What is read of lines that are joined to a text. -/
theorem Report.ofLog_joinLines {c : OutputContext} {laid : List (List Char)}
    (hlines : ∀ l ∈ laid, '\n' ∉ l) {verdicts : List FeatureVerdict}
    (hread : (laid.foldl (LogReading.readLine c) .start).allFeatures.reverse = verdicts) :
    Report.ofLog c (String.ofList (joinLines laid)) =
      if verdicts = [] ∧ countWritten laid ≠ 0 then .error (.log (countWritten laid))
      else .ok ⟨verdicts, ∅⟩ := by
  have hcount : ((laid.map trim).filter (!·.isEmpty)).length = countWritten laid := by
    rw [← List.countP_eq_length_filter, List.countP_map]
    rfl
  have hempty : ((laid.map trim).filter (!·.isEmpty)).isEmpty = decide (countWritten laid = 0) := by
    rw [← hcount]
    cases (laid.map trim).filter (!·.isEmpty) <;> rfl
  rw [Report.ofLog, String.toList_ofList, filter_trimmedLines_joinLines hlines,
    LogReading.foldl_step_filter, hread, hcount, hempty]
  cases verdicts <;> simp

/-- Reading undoes printing: for every layout of readable blocks the report has the verdict of each
block, in order, and the verdict of a block that prints no language twice has what its entries say
and nothing else. -/
theorem Report.ofLog_laid {c : OutputContext} {blocks : List Block} {laid : List (List Char)}
    (hblocks : ∀ b ∈ blocks, b.Readable) (hlines : ∀ l ∈ laid, '\n' ∉ l)
    (hlaid : Laid (blocks.flatMap Block.lines) laid) :
    Report.ofLog c (String.ofList (joinLines laid)) =
      (if blocks = [] ∧ countWritten laid ≠ 0 then .error (.log (countWritten laid))
      else .ok ⟨blocks.map (·.verdict c), ∅⟩) ∧
    ∀ b ∈ blocks, (b.entries.map (·.language c)).Nodup → ∀ l v,
      (b.verdict c).languages.get? l = some v ↔
        ∃ e ∈ b.entries, e.language c = l ∧ e.verdict c = v := by
  have hread : (laid.foldl (LogReading.readLine c) .start).allFeatures.reverse =
      blocks.map (·.verdict c) := by
    rw [LogReading.foldl_readLine_laid hlaid, LogReading.allFeatures_foldl_blocks hblocks]
    simp [LogReading.start, LogReading.allFeatures]
  have hofLog := Report.ofLog_joinLines hlines hread
  simp only [List.map_eq_nil_iff] at hofLog
  exact ⟨hofLog, fun _ _ hb _ _ => Block.get?_languages_verdict hb⟩

namespace PrintedLog

/-- A workspace to read outputs in. -/
def repo : OutputContext := ⟨"/repo", .default⟩

/-- A block with a language that passed, one that failed and one without a test file. -/
def selectBlock : Block where
  path := "tests/definitions/query/select.feature"
  entries := [
    ⟨"Python", .passed "python/tests/e2e/test_select.py", []⟩,
    ⟨"Jdbc", .failed "jdbc/src/test/SelectTest.java",
      [.header, .method "selectMany" (some 40) "Select many"]⟩,
    ⟨"Rust", .noFile, []⟩]

/-- The block below a line of other output and a blank one, indented, its lines ended by carriage
returns. -/
def selectLog : List (List Char) :=
  "Validating 1 feature".toList :: [] ::
    ([selectBlock].flatMap Block.lines).map fun l => "  ".toList ++ l ++ "\r".toList

end PrintedLog

theorem Report.ofLog_laid_selectLog :
    selectBlock.Readable ∧ (∀ l ∈ selectLog, '\n' ∉ l) ∧
      Laid ([selectBlock].flatMap Block.lines) selectLog ∧
      (selectBlock.entries.map (·.language repo)).Nodup ∧
      Report.ofLog repo (String.ofList (joinLines selectLog)) =
        .ok ⟨[selectBlock.verdict repo], ∅⟩ := by
  have hblocks : ∀ b ∈ [selectBlock], b.Readable := by decide +kernel
  have hlines : ∀ l ∈ selectLog, '\n' ∉ l := by decide +kernel
  have hnoise : IsNoise "Validating 1 feature".toList := by decide +kernel
  have hlaid : Laid ([selectBlock].flatMap Block.lines) selectLog :=
    .noise hnoise (.noise (by decide) (laid_map (by decide) (by decide) _))
  refine ⟨hblocks _ (by simp), hlines, hlaid, by decide +kernel, ?_⟩
  exact (Report.ofLog_laid hblocks hlines hlaid).1.trans (if_neg fun h => absurd h.1 (by simp))

/-! ## What is not read back -/

namespace PrintedLog

/-- Are the blocks read back from every layout? -/
def ReadBack (c : OutputContext) (blocks : List Block) : Prop :=
  ∀ laid, (∀ l ∈ laid, '\n' ∉ l) → Laid (blocks.flatMap Block.lines) laid →
    Report.ofLog c (String.ofList (joinLines laid)) = .ok ⟨blocks.map (·.verdict c), ∅⟩

/-- Languages of which a text is taken for a part of the form around it. -/
def mistaken : List Entry :=
  let path := "go/login_test.go"
  [⟨"Go", .failed path, [.warning "Log in (expected in time)" none]⟩,
    ⟨"Go", .failed path, [.warning "Log in (expected in" (some "e2e")]⟩,
    ⟨"Go", .failed path, [.header, .method "log in (scenario: short)" none "Log in"]⟩,
    ⟨"Go", .failed path, [.header, .method "login" none ""]⟩,
    ⟨"Go", .failed path, [.header, .method "login" none "Log in "]⟩,
    ⟨"Go", .passed "go/login (validation failed)", []⟩,
    ⟨"Go", .passed "No test file found", []⟩,
    ⟨"Go", .failed "No test file found", []⟩,
    ⟨"Go", .passed "", []⟩,
    ⟨"Go", .failed "", []⟩,
    ⟨"Go 2", .passed path, []⟩,
    ⟨"", .passed path, []⟩]

theorem not_readBack_of_foldl_ne {c : OutputContext} {blocks : List Block}
    (hlines : ∀ l ∈ blocks.flatMap Block.lines, '\n' ∉ l)
    (h : ((blocks.flatMap Block.lines).foldl (LogReading.readLine c) .start).allFeatures.reverse ≠
      blocks.map (·.verdict c)) : ¬ ReadBack c blocks := by
  intro hback
  have hok := (Report.ofLog_joinLines hlines rfl).symm.trans (hback _ hlines (laid_self _))
  split at hok
  · cases hok
  · exact h (congrArg Report.verdicts (Except.ok.inj hok))

end PrintedLog

/-- Other output without any block is refused, and a text that looks like a part of the form is not
read as it was printed. -/
theorem not_readBack_mistaken :
    ¬ ReadBack repo [] ∧ ∀ e ∈ mistaken, ¬ ReadBack repo [⟨"login.feature", [e]⟩] := by
  constructor
  · intro hback
    have hread := hback ["no features found".toList] (by decide) (.noise (by decide) .nil)
    exact absurd hread (by decide)
  · intro e he
    have hall : ∀ e ∈ mistaken,
        (∀ l ∈ [Block.mk "login.feature" [e]].flatMap Block.lines, '\n' ∉ l) ∧
        (([Block.mk "login.feature" [e]].flatMap Block.lines).foldl (LogReading.readLine repo)
          .start).allFeatures.reverse ≠ [Block.mk "login.feature" [e]].map (·.verdict repo) := by
      decide +kernel
    exact not_readBack_of_foldl_ne (hall e he).1 (hall e he).2

end SpecCoverage
