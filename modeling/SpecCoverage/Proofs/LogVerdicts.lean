-- SUMMARY: What any text log is read as: refused without a feature line, else a sound verdict for each feature line.
import SpecCoverage.Proofs.LogReading

/-!
# The verdicts of any log

Whatever a log holds, each of its feature lines opens one verdict, and the lines that follow change
the languages of that verdict alone. A step keeps verdicts sound (`FeatureVerdict.Sound`) and adds a
path for a feature line only, so a whole log is read as one sound verdict for each of its feature
lines, in order. A log that has lines but no feature line is refused.
-/
namespace SpecCoverage

open Text

/-- Each language is found under its own key, and one with a flagged scenario has not implemented the
feature. -/
structure FeatureVerdict.Sound (fv : FeatureVerdict) : Prop where
  keyed : ∀ l v, fv.languages.get? l = some v → v.language = l
  flagged : ∀ l v, fv.languages.get? l = some v → ∀ s ∈ v.flagged, v.implemented = false

namespace FeatureVerdict

theorem sound_empty (path : String) : Sound ⟨path, ∅⟩ where
  keyed := by
    intro l v h
    rw [SortedMap.get?_empty] at h
    cases h
  flagged := by
    intro l v h
    rw [SortedMap.get?_empty] at h
    cases h

theorem Sound.insert {fv : FeatureVerdict} (h : fv.Sound) {v : LanguageVerdict}
    (hflagged : ∀ s ∈ v.flagged, v.implemented = false) :
    Sound { fv with languages := fv.languages.insert v.language v } where
  keyed := by
    intro l w hw
    rw [SortedMap.get?_insert] at hw
    split at hw
    · rename_i hl
      rw [← Option.some.inj hw, hl]
    · exact h.keyed l w hw
  flagged := by
    intro l w hw
    rw [SortedMap.get?_insert] at hw
    split at hw
    · rw [← Option.some.inj hw]
      exact hflagged
    · exact h.flagged l w hw

end FeatureVerdict

/-! ## Lines -/

namespace LogLine

/-- The path of the feature that the line opens. -/
def path? : LogLine → Option String
  | .feature path => some path
  | .blank | .language _ | .header | .warning _ | .method _ | .noise => none

/-- A line that starts with the marker opens a feature; no other line does, and one that opens a
language is read as a language line. -/
theorem ofText_cases (c : OutputContext) (l : List Char) :
    (∃ text, dropLead? featureMarker.toList l = some text ∧
      ofText c l = .feature (c.relativize (String.ofList text))) ∨
    dropLead? featureMarker.toList l = none ∧ (ofText c l).path? = none ∧
      ∀ v, ofText c l = .language v → language? c l = some v := by
  by_cases hne : l = []
  · rw [hne]
    exact .inr ⟨rfl, rfl, fun v hv => by cases hv⟩
  cases hfeature : dropLead? featureMarker.toList l with
  | some text =>
    refine .inl ⟨text, rfl, ?_⟩
    simp [ofText, hne, hfeature]
  | none =>
    refine .inr ⟨rfl, ?_⟩
    cases hlanguage : language? c l with
    | some v =>
      have hline : ofText c l = .language v := by simp [ofText, hne, hfeature, hlanguage]
      rw [hline]
      exact ⟨rfl, fun w hw => congrArg some (LogLine.language.inj hw)⟩
    | none =>
      rw [ofText_of_none hne hfeature hlanguage]
      split
      · exact ⟨rfl, fun v hv => by cases hv⟩
      · split
        · exact ⟨rfl, fun v hv => by cases hv⟩
        · split <;> exact ⟨rfl, fun v hv => by cases hv⟩

theorem path?_ofText (c : OutputContext) (l : List Char) :
    (ofText c l).path? =
      (dropLead? featureMarker.toList l).map fun text => c.relativize (String.ofList text) := by
  rcases ofText_cases c l with ⟨text, hlead, hline⟩ | ⟨hlead, hpath, -⟩
  · rw [hlead, hline]
    rfl
  · rw [hlead, hpath]
    rfl

theorem flagged_of_verdict? {c : OutputContext} {passed : Bool} {rest : List Char}
    {v : LanguageVerdict} (h : verdict? c passed rest = some v) : v.flagged = ∅ := by
  unfold verdict? at h
  split at h
  · cases h
  · dsimp only at h
    split at h
    · cases h
    · rw [← Option.some.inj h]

/-- A language line flags nothing yet. -/
theorem flagged_of_ofText {c : OutputContext} {l : List Char} {v : LanguageVerdict}
    (h : ofText c l = .language v) : v.flagged = ∅ := by
  have hlanguage : language? c l = some v := by
    rcases ofText_cases c l with ⟨text, -, hline⟩ | ⟨-, -, hlanguage⟩
    · rw [hline] at h
      cases h
    · exact hlanguage v h
  cases l with
  | nil => cases hlanguage
  | cons glyph rest =>
    rw [language?] at hlanguage
    by_cases hpass : glyph = passGlyph
    · rw [if_pos hpass] at hlanguage
      exact flagged_of_verdict? hlanguage
    · rw [if_neg hpass] at hlanguage
      by_cases hfail : glyph = failGlyph
      · rw [if_pos hfail] at hlanguage
        exact flagged_of_verdict? hlanguage
      · rw [if_neg hfail] at hlanguage
        cases hlanguage

/-- The number of lines that are recognized: feature lines, and language lines below one. -/
def recognized : Bool → List LogLine → Nat
  | _, [] => 0
  | _, .feature _ :: ls => recognized true ls + 1
  | opened, .language _ :: ls => recognized opened ls + if opened then 1 else 0
  | opened, .blank :: ls | opened, .header :: ls | opened, .warning _ :: ls
  | opened, .method _ :: ls | opened, .noise :: ls => recognized opened ls

/-- Where no feature line stands nothing is recognized. -/
theorem recognized_eq_zero_iff {ls : List LogLine} :
    recognized false ls = 0 ↔ ∀ l ∈ ls, l.path? = none := by
  induction ls with
  | nil => simp [recognized]
  | cons l ls ih => cases l <;> simp [recognized, path?, ih]

end LogLine

/-! ## Steps -/

namespace LogReading

variable {c : OutputContext}

/-- All verdicts read so far are sound. -/
def Sound (r : LogReading) : Prop :=
  ∀ fv ∈ r.allFeatures, fv.Sound

theorem sound_flag {f : OpenFeature} (h : f.verdict.Sound) (scenario : String) :
    (f.flag scenario).verdict.Sound := by
  unfold OpenFeature.flag
  split
  · exact h
  · rename_i l _
    split
    · exact h
    · rename_i v hv
      have hkey : v.language = l := h.keyed l v hv
      rw [← hkey]
      exact h.insert (v := { v with flagged := v.flagged.insert scenario, implemented := false })
        fun _ _ => rfl

theorem path_flag (f : OpenFeature) (scenario : String) :
    (f.flag scenario).verdict.path = f.verdict.path := by
  unfold OpenFeature.flag
  split
  · rfl
  · split <;> rfl

/-- A line that opens no feature changes the feature that stands open, if one does. -/
theorem step_cases (r : LogReading) {line : LogLine} (hpath : line.path? = none)
    (hline : ∀ v, line = .language v → v.flagged = ∅) :
    ∃ change : OpenFeature → OpenFeature,
      r.step line = { r with current? := r.current?.map change } ∧
      ∀ f, (change f).verdict.path = f.verdict.path ∧
        (f.verdict.Sound → (change f).verdict.Sound) := by
  have hsame : r = { r with current? := r.current?.map id } := by simp
  cases line with
  | feature path => cases hpath
  | blank | noise => exact ⟨id, hsame, fun _ => ⟨rfl, id⟩⟩
  | language v =>
    refine ⟨_, rfl, fun f => ⟨rfl, fun h => h.insert ?_⟩⟩
    intro s hs
    rw [hline v rfl] at hs
    exact absurd hs List.not_mem_nil
  | header => exact ⟨_, rfl, fun _ => ⟨rfl, id⟩⟩
  | warning scenario? =>
    cases scenario? with
    | none => exact ⟨id, hsame, fun _ => ⟨rfl, id⟩⟩
    | some scenario =>
      exact ⟨_, rfl, fun f => ⟨path_flag f scenario, fun h => sound_flag h scenario⟩⟩
  | method scenario =>
    refine ⟨_, rfl, fun f => ?_⟩
    cases f.underHeader with
    | false => exact ⟨rfl, id⟩
    | true => exact ⟨path_flag f scenario, fun h => sound_flag h scenario⟩

/-- A step adds the path of the feature that the line opens, and no other. -/
theorem paths_step (r : LogReading) {line : LogLine}
    (hline : ∀ v, line = .language v → v.flagged = ∅) :
    (r.step line).allFeatures.map (·.path) =
      line.path?.toList ++ r.allFeatures.map (·.path) := by
  cases hpath : line.path? with
  | some path =>
    cases line <;> cases hpath
    rfl
  | none =>
    obtain ⟨change, hstep, hchange⟩ := step_cases r hpath hline
    rw [hstep]
    obtain ⟨closed, current?⟩ := r
    cases current? with
    | none => rfl
    | some f =>
      simp only [allFeatures, Option.map_some, List.map_cons, (hchange f).1]
      rfl

theorem Sound.step {r : LogReading} (h : r.Sound) {line : LogLine}
    (hline : ∀ v, line = .language v → v.flagged = ∅) : (r.step line).Sound := by
  cases hpath : line.path? with
  | some path =>
    cases line <;> cases hpath
    intro fv hfv
    rcases List.mem_cons.1 hfv with rfl | hfv
    · exact FeatureVerdict.sound_empty path
    · exact h fv hfv
  | none =>
    obtain ⟨change, hstep, hchange⟩ := step_cases r hpath hline
    rw [hstep]
    obtain ⟨closed, current?⟩ := r
    cases current? with
    | none => exact h
    | some f =>
      intro fv hfv
      rcases List.mem_cons.1 hfv with rfl | hfv
      · exact (hchange f).2 (h f.verdict List.mem_cons_self)
      · exact h fv (List.mem_cons_of_mem _ hfv)

/-! ## Whole logs -/

/-- What stands behind the marker in the feature lines among lines of a log. -/
def markedTexts (ls : List (List Char)) : List String :=
  ls.filterMap fun l => (dropLead? LogLine.featureMarker.toList l).map String.ofList

theorem markedTexts_eq_nil_iff {ls : List (List Char)} :
    markedTexts ls = [] ↔ ∀ l ∈ ls, ¬ LogLine.featureMarker.toList <+: l := by
  simp only [markedTexts, List.filterMap_eq_nil_iff, Option.map_eq_none_iff, dropLead?_eq_none_iff]

/-- Lines add one verdict for each feature line among them, in order, and keep verdicts sound. -/
theorem foldl_readLine (ls : List (List Char)) (r : LogReading) :
    (ls.foldl (readLine c) r).allFeatures.map (·.path) =
        ((markedTexts (ls.map trim)).map c.relativize).reverse ++ r.allFeatures.map (·.path) ∧
      (r.Sound → (ls.foldl (readLine c) r).Sound) := by
  induction ls generalizing r with
  | nil => exact ⟨rfl, id⟩
  | cons l ls ih =>
    have hline : ∀ v, LogLine.ofText c (trim l) = .language v → v.flagged = ∅ :=
      fun v => LogLine.flagged_of_ofText
    obtain ⟨hpaths, hsound⟩ := ih (readLine c r l)
    rw [List.foldl_cons]
    refine ⟨?_, fun h => hsound (h.step hline)⟩
    rw [hpaths, readLine, paths_step r hline, LogLine.path?_ofText, ← List.append_assoc]
    congr 1
    cases hlead : dropLead? LogLine.featureMarker.toList (trim l) <;>
      simp [markedTexts, hlead]

end LogReading

namespace Report

open LogReading

/-- The number of lines of a log that are not blank. -/
def writtenLines (output : String) : Nat :=
  (trimmedLines output.toList).countP (!·.isEmpty)

/-- What a log is read as, whatever it holds. -/
structure ReadsLog (c : OutputContext) (output : String) (result : Except OutputError Report) :
    Prop where
  /-- A log with lines of which none opens a feature is refused, with their number. -/
  refused : ∀ n, result = .error (.log n) ↔ n = writtenLines output ∧ 1 ≤ n ∧
    ∀ l ∈ trimmedLines output.toList, ¬ LogLine.featureMarker.toList <+: l
  /-- Language lines are recognized below feature lines only, so to count them too is the same. -/
  recognized : (∃ n, result = .error (.log n)) ↔ 1 ≤ writtenLines output ∧
    LogLine.recognized false ((trimmedLines output.toList).map (LogLine.ofText c)) = 0
  /-- Every other log is read as one sound verdict for each feature line, in order. -/
  read : (∀ n, result ≠ .error (.log n)) → ∃ r, result = .ok r ∧ r.crossReferences = ∅ ∧
    r.verdicts.map (·.path) = (markedTexts (trimmedLines output.toList)).map c.relativize ∧
    ∀ fv ∈ r.verdicts, fv.Sound

theorem recognized_ofText_eq_zero_iff {c : OutputContext} {ls : List (List Char)} :
    LogLine.recognized false (ls.map (LogLine.ofText c)) = 0 ↔
      ∀ l ∈ ls, ¬ LogLine.featureMarker.toList <+: l := by
  simp only [LogLine.recognized_eq_zero_iff, List.forall_mem_map, LogLine.path?_ofText,
    Option.map_eq_none_iff, dropLead?_eq_none_iff]

/-- The report of a log with a feature line, or without any line. -/
theorem exists_ofLog_eq (c : OutputContext) (output : String) :
    ∃ verdicts : List FeatureVerdict,
      verdicts.map (·.path) = (markedTexts (trimmedLines output.toList)).map c.relativize ∧
      (∀ fv ∈ verdicts, fv.Sound) ∧
      ofLog c output =
        if verdicts = [] ∧ 1 ≤ writtenLines output then .error (.log (writtenLines output))
        else .ok ⟨verdicts, ∅⟩ := by
  obtain ⟨hpaths, hsound⟩ := foldl_readLine (c := c) (lines output.toList) .start
  refine ⟨((lines output.toList).foldl (readLine c) .start).allFeatures.reverse, ?_, ?_, ?_⟩
  · rw [List.map_reverse, hpaths]
    simp [start, allFeatures, trimmedLines]
  · intro fv hfv
    exact hsound (fun fv hfv => by cases hfv) fv (List.mem_reverse.1 hfv)
  · have hcount : ((trimmedLines output.toList).filter (!·.isEmpty)).length = writtenLines output :=
      (List.countP_eq_length_filter ..).symm
    have hempty : ((trimmedLines output.toList).filter (!·.isEmpty)).isEmpty =
        decide (writtenLines output = 0) := by
      rw [← hcount]
      cases (trimmedLines output.toList).filter (!·.isEmpty) <;> rfl
    have hread := foldl_step_filter (c := c) (lines output.toList) .start
    rw [← trimmedLines] at hread
    rw [ofLog, hread, hcount, hempty]
    cases ((lines output.toList).foldl (readLine c) .start).allFeatures.reverse <;>
      simp [Nat.one_le_iff_ne_zero]

/-- A log is refused with the number of its lines if it has lines but no feature line, and is else
read as one sound verdict for each feature line. -/
theorem ofLog_reads (c : OutputContext) (output : String) :
    ReadsLog c output (ofLog c output) := by
  obtain ⟨verdicts, hpaths, hsound, hofLog⟩ := exists_ofLog_eq c output
  have hnil : verdicts = [] ↔
      ∀ l ∈ trimmedLines output.toList, ¬ LogLine.featureMarker.toList <+: l := by
    rw [← markedTexts_eq_nil_iff, ← List.map_eq_nil_iff, hpaths, List.map_eq_nil_iff]
  have hrefused : ∀ n, ofLog c output = .error (.log n) ↔
      n = writtenLines output ∧ 1 ≤ n ∧ verdicts = [] := by
    intro n
    rw [hofLog]
    split
    · rename_i hcond
      simp only [Except.error.injEq, OutputError.log.injEq]
      constructor
      · rintro rfl
        exact ⟨rfl, hcond.2, hcond.1⟩
      · rintro ⟨rfl, -, -⟩
        rfl
    · rename_i hcond
      simp only [reduceCtorEq, false_iff]
      rintro ⟨rfl, hlines, hverdicts⟩
      exact hcond ⟨hverdicts, hlines⟩
  constructor
  case refused =>
    intro n
    rw [hrefused, hnil]
  case recognized =>
    rw [recognized_ofText_eq_zero_iff, ← hnil]
    simp only [hrefused, exists_eq_left]
  case read =>
    intro haccepted
    rw [hofLog] at haccepted ⊢
    split at haccepted
    · exact absurd rfl (haccepted _)
    · rename_i hcond
      exact ⟨_, if_neg hcond, rfl, hpaths, hsound⟩

end Report

end SpecCoverage
