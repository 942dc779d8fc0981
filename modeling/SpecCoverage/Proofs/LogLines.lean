-- SUMMARY: What each printed line of the log is taken for, and that noise is taken for nothing.
import SpecCoverage.Proofs.PrintedLog

/-!
# Lines of the printed log

Lines are classified one by one and without the blanks around them. A printed line is taken for what
it was printed for; a line that starts as none of them is taken for nothing.
-/
namespace SpecCoverage

open Text

/-- Blanks around a path make no difference. -/
theorem OutputContext.relativize_congr {c : OutputContext} {p q : String}
    (h : trim p.toList = trim q.toList) : c.relativize p = c.relativize q := by
  unfold OutputContext.relativize
  rw [h]

namespace LogLine

theorem language?_eq_none {c : OutputContext} {s : List Char} (hpass : ¬ [passGlyph] <+: s)
    (hfail : ¬ [failGlyph] <+: s) : language? c s = none := by
  cases s with
  | nil => rfl
  | cons g s =>
    have hp : g ≠ passGlyph := by
      rintro rfl
      exact hpass ⟨s, rfl⟩
    have hf : g ≠ failGlyph := by
      rintro rfl
      exact hfail ⟨s, rfl⟩
    rw [language?, if_neg hp, if_neg hf]

/-- A line that opens neither a feature nor a language. -/
theorem ofText_of_none {c : OutputContext} {s : List Char} (hne : s ≠ [])
    (hfeature : dropLead? featureMarker.toList s = none) (hlanguage : language? c s = none) :
    ofText c s =
      if startsWith missingStepsHeader.toList s then .header
      else
        match dropLead? warningGlyph.toList s with
        | some text => .warning (missingMethod? text)
        | none =>
          match method? s with
          | some scenario => .method scenario
          | none => .noise := by
  cases s with
  | nil => exact absurd rfl hne
  | cons g s =>
    rewrite [ofText, List.isEmpty_cons, if_neg (by decide), hfeature, hlanguage]
    rfl

end LogLine

namespace PrintedLog

open LogLine

/-! ## Noise -/

theorem ofText_noise {c : OutputContext} {l : List Char} (h : IsNoise l) (hne : trim l ≠ []) :
    ofText c (trim l) = .noise := by
  have hfeature : dropLead? featureMarker.toList (trim l) = none :=
    dropLead?_eq_none_iff.2 (h _ (by simp [starts]))
  have hlanguage : language? c (trim l) = none :=
    language?_eq_none (h _ (by simp [starts])) (h _ (by simp [starts]))
  have hwarning : ¬ warningGlyph.toList <+: trim l := h _ (by simp [starts])
  have hheader : startsWith missingStepsHeader.toList (trim l) = false := by
    have hfront : warningGlyph.toList <+: missingStepsHeader.toList := by decide
    exact Bool.eq_false_iff.2 fun hs => hwarning (hfront.trans (startsWith_iff.1 hs))
  have hmethod : method? (trim l) = none := by
    have hlead : dropLead? "In method ".toList (trim l) = none :=
      dropLead?_eq_none_iff.2 (h _ (by simp [starts]))
    rw [method?, hlead]
    rfl
  rw [ofText_of_none hne hfeature hlanguage, hheader, dropLead?_eq_none_iff.2 hwarning, hmethod]
  rfl

/-! ## Lines that flag scenarios -/

namespace Mark

theorem IsTrimmed.trimEnd_eq {s : String} (h : IsTrimmed s) : trimEnd s.toList = s.toList := by
  rw [← h.1, trim, trimEnd_trimEnd]

theorem ofText_header (c : OutputContext) : ofText c (trim header.line) = .header := by
  have htrim : trim header.line = missingStepsHeader.toList := by decide
  have hlanguage : language? c missingStepsHeader.toList = none := rfl
  rw [htrim, ofText_of_none (by decide) (by decide) hlanguage]
  rfl

theorem trim_line_method (name : String) (line? : Option Nat) (scenario : String) :
    trim (line (.method name line? scenario)) = line (.method name line? scenario) := by
  have hend : trimEnd (scenario.toList ++ "):".toList) = scenario.toList ++ "):".toList :=
    trimEnd_append_of_ne_nil _ (by decide)
  exact trim_append_eq_self _ (by decide) (by decide) hend (by simp)

theorem method?_line {name scenario : String} {line? : Option Nat}
    (h : Readable (.method name line? scenario)) :
    method? (line (.method name line? scenario)) = some scenario := by
  obtain ⟨hs, hclause⟩ := h
  have hlead : dropLead? "In method ".toList (line (.method name line? scenario)) =
      some (methodText name line? ++ scenarioClause ++ (scenario.toList ++ "):".toList)) :=
    dropLead?_append _ _
  have hcut : cutFirst? " (scenario: ".toList
      (methodText name line? ++ scenarioClause ++ (scenario.toList ++ "):".toList)) =
        some (methodText name line?, scenario.toList ++ "):".toList) :=
    cutFirst?_append _ (by decide) hclause
  have htail : dropTail? "):".toList (scenario.toList ++ "):".toList) = some scenario.toList :=
    dropTail?_append _ _
  have hempty : scenario.toList.isEmpty = false := by simpa using hs.2
  rw [method?, hlead]
  change (cutFirst? " (scenario: ".toList _).bind _ = _
  rw [hcut]
  change ((dropTail? "):".toList _).or _).bind _ = _
  rw [htail]
  change (if (trim scenario.toList).isEmpty = true then none else _) = _
  rw [hs.1, hempty, if_neg (by decide), String.ofList_toList]

theorem ofText_method {c : OutputContext} {name scenario : String} {line? : Option Nat}
    (h : Readable (.method name line? scenario)) :
    ofText c (trim (line (.method name line? scenario))) = .method scenario := by
  have hne : line (.method name line? scenario) ≠ [] := List.cons_ne_nil _ _
  have hfeature : dropLead? featureMarker.toList (line (.method name line? scenario)) = none := rfl
  have hlanguage : language? c (line (.method name line? scenario)) = none := rfl
  have hheader :
      startsWith missingStepsHeader.toList (line (.method name line? scenario)) = false := rfl
  have hwarning : dropLead? warningGlyph.toList (line (.method name line? scenario)) = none := rfl
  rw [trim_line_method, ofText_of_none hne hfeature hlanguage, hheader, hwarning, method?_line h]
  rfl

/-- What follows the text of a warning is trimmed at its end. -/
theorem trimEnd_warning {scenario : String} (place? : Option String) (h : IsTrimmed scenario) :
    trimEnd (scenario.toList ++ placeText place?) = scenario.toList ++ placeText place? := by
  cases place? with
  | none => rw [placeText, List.append_nil, h.trimEnd_eq]
  | some place =>
    have hend : trimEnd (place.toList ++ ")".toList) = place.toList ++ ")".toList :=
      trimEnd_append_of_ne_nil _ (by decide)
    have hne : trimEnd (place.toList ++ ")".toList) ≠ [] := by
      rw [hend]
      simp
    rw [placeText, ← List.append_assoc, trimEnd_append_of_ne_nil _ hne, hend]

theorem Readable.isTrimmed {scenario : String} {place? : Option String}
    (h : Readable (.warning scenario place?)) : IsTrimmed scenario := by
  cases place? with
  | none => exact h.1
  | some _ => exact h.1

theorem cutFirst?_warning {scenario : String} {place? : Option String}
    (h : Readable (.warning scenario place?)) :
    ((cutFirst? placeClause (scenario.toList ++ placeText place?)).map (·.1)).getD
      (scenario.toList ++ placeText place?) = scenario.toList := by
  cases place? with
  | none => rw [placeText, List.append_nil, cutFirst?_eq_none_iff.2 h.2]; rfl
  | some place =>
    rw [placeText, ← List.append_assoc, cutFirst?_append _ (by decide) h.2]
    rfl

theorem missingMethod?_warning {scenario : String} {place? : Option String}
    (h : Readable (.warning scenario place?)) :
    missingMethod? ("  No test method found for scenario: ".toList ++
      (scenario.toList ++ placeText place?)) = some scenario := by
  have hs := h.isTrimmed
  have hne : scenario.toList ++ placeText place? ≠ [] := List.append_ne_nil_of_left_ne_nil hs.2 _
  have htrim := calc trim ("  No test method found for scenario: ".toList ++
        (scenario.toList ++ placeText place?))
    _ = trim ("No test method found for scenario: ".toList ++
        (scenario.toList ++ placeText place?)) := (trim_cons_space _).trans (trim_cons_space _)
    _ = "No test method found for scenario: ".toList ++ (scenario.toList ++ placeText place?) :=
        trim_append_eq_self [] (by decide) (by decide) (trimEnd_warning place? hs) hne
  have hname : trim (((cutFirst? " (expected in ".toList (scenario.toList ++ placeText place?)).map
      (·.1)).getD (scenario.toList ++ placeText place?)) = scenario.toList :=
    (congrArg trim (cutFirst?_warning h)).trans hs.1
  have hempty : scenario.toList.isEmpty = false := by simpa using hs.2
  rw [missingMethod?, htrim, dropLead?_append]
  dsimp only
  rw [hname, hempty, if_neg (by decide), String.ofList_toList]

theorem ofText_warning {c : OutputContext} {scenario : String} {place? : Option String}
    (h : Readable (.warning scenario place?)) :
    ofText c (trim (line (.warning scenario place?))) = .warning (some scenario) := by
  have hne : scenario.toList ++ placeText place? ≠ [] :=
    List.append_ne_nil_of_left_ne_nil h.isTrimmed.2 _
  have htrim : trim (line (.warning scenario place?)) = line (.warning scenario place?) :=
    trim_append_eq_self _ (by decide) (by decide) (trimEnd_warning place? h.isTrimmed) hne
  have hcons : line (.warning scenario place?) ≠ [] := List.cons_ne_nil _ _
  have hfeature : dropLead? featureMarker.toList (line (.warning scenario place?)) = none := rfl
  have hlanguage : language? c (line (.warning scenario place?)) = none := rfl
  have hheader : startsWith missingStepsHeader.toList (line (.warning scenario place?)) = false :=
    rfl
  have hwarning : dropLead? warningGlyph.toList (line (.warning scenario place?)) =
      some ("  No test method found for scenario: ".toList ++
        (scenario.toList ++ placeText place?)) :=
    dropLead?_append _ _
  rw [htrim, ofText_of_none hcons hfeature hlanguage, hheader, hwarning]
  exact congrArg LogLine.warning (missingMethod?_warning h)

/-- What a mark is taken for. -/
def logLine : Mark → LogLine
  | .header => .header
  | .method _ _ scenario => .method scenario
  | .warning scenario _ => .warning (some scenario)

theorem ofText_line {c : OutputContext} {m : Mark} (h : m.Readable) :
    ofText c (trim m.line) = m.logLine := by
  cases m with
  | header => exact ofText_header c
  | method name line? scenario => exact ofText_method h
  | warning scenario place? => exact ofText_warning h

end Mark

/-! ## Language lines -/

namespace Outcome

theorem trimEnd_text_ne_nil {o : Outcome} (h : o.Readable) : trimEnd o.text ≠ [] := by
  have hpath {s : List Char} (hs : trim s ≠ []) : trimEnd s ≠ [] := by
    rintro hnil
    exact hs (trim_eq_nil_iff.2 (trimEnd_eq_nil_iff.1 hnil))
  cases o with
  | noFile => decide
  | passed path => exact hpath h.1.1
  | failed path =>
    rw [text, trimEnd_append_of_ne_nil _ (by decide)]
    exact List.append_ne_nil_of_right_ne_nil _ (by decide)

/-- The text for the file is read back, without the ending of failures. -/
theorem trim_dropTail?_text {o : Outcome} (h : o.Readable) :
    trim ((dropTail? failedEnding.toList (trim o.text)).getD (trim o.text)) =
      (o.path?.elim noTestFile.toList fun path => trim path.toList) := by
  cases o with
  | noFile => decide
  | passed path =>
    rw [text, dropTail?_eq_none_iff.2 h.2]
    exact trim_trim _
  | failed path =>
    have hstart : trimStart path.toList ≠ [] := by
      rw [Ne, trimStart_eq_nil_iff, ← trim_eq_nil_iff]
      exact h.1
    have hend : trimEnd failedEnding.toList = failedEnding.toList := by decide
    have hne : trimEnd failedEnding.toList ≠ [] := by decide
    have htrim : trim (path.toList ++ failedEnding.toList) =
        trimStart path.toList ++ failedEnding.toList := by
      rw [trim, trimStart_append_of_ne_nil _ hstart, trimEnd_append_of_ne_nil _ hne, hend]
    rw [text, htrim, dropTail?_append]
    exact trim_trimStart _

theorem language?_glyph (c : OutputContext) (o : Outcome) (rest : List Char) :
    language? c (o.glyph :: rest) = verdict? c o.isPassed rest := by
  cases o <;> rfl

theorem dropLead?_featureMarker_glyph (o : Outcome) (rest : List Char) :
    dropLead? featureMarker.toList (o.glyph :: rest) = none := by
  cases o <;> rfl

theorem isBlank_glyph (o : Outcome) : isBlank o.glyph = false := by
  unfold glyph
  split <;> decide

theorem trim_path_ne {o : Outcome} {path : String} (h : o.Readable) (hpath : o.path? = some path) :
    trim path.toList ≠ noTestFile.toList := by
  cases o with
  | noFile => cases hpath
  | passed p =>
    cases hpath
    exact h.1.2
  | failed p =>
    cases hpath
    exact h.2

end Outcome

namespace Entry

/-- The first colon with a space behind it is the one that ends the name. -/
theorem cutFirst?_name {e : Entry} (h : e.Readable) (rest : List Char) :
    cutFirst? ": ".toList (e.name.toList ++ ": ".toList ++ rest) = some (e.name.toList, rest) := by
  refine cutFirst?_append rest (by decide) fun hin => ?_
  have hmem : ' ' ∈ e.name.toList ++ [':'] := hin.subset (by decide)
  rcases List.mem_append.1 hmem with hname | hcolon
  · exact absurd (h.name.2 _ hname) (by decide)
  · exact absurd hcolon (by decide)

theorem verdict?_rest {c : OutputContext} {e : Entry} (h : e.Readable) :
    verdict? c e.outcome.isPassed
      (' ' :: (e.name.toList ++ ": ".toList ++ trimEnd e.outcome.text)) = some (e.opening c) := by
  obtain ⟨ch, n, hname⟩ := List.exists_cons_of_ne_nil h.name.1
  -- The name starts with a character that is not blank, so only the space in front of it goes.
  have hstart : trimStart (' ' :: (e.name.toList ++ ": ".toList ++ trimEnd e.outcome.text)) =
      e.name.toList ++ ": ".toList ++ trimEnd e.outcome.text := by
    have hch : isBlank ch = false := h.name.2 ch (by simp [hname])
    change trimStart (e.name.toList ++ ": ".toList ++ trimEnd e.outcome.text) = _
    rw [hname]
    exact trimStart_cons_of_not_isBlank _ hch
  have hword : (e.name.toList.isEmpty || e.name.toList.any isBlank) = false := by
    simpa [hname] using h.name.2
  rw [verdict?, hstart, cutFirst?_name h]
  dsimp only
  rw [trim_of_forall_not_isBlank h.name.2, hword, if_neg (by decide), trim_trimEnd,
    Outcome.trim_dropTail?_text h.outcome, String.ofList_toList]
  cases hpath : e.outcome.path? with
  | none => simp [opening, language, hpath]
  | some path =>
    have hfound : trim path.toList ≠ noTestFile.toList := Outcome.trim_path_ne h.outcome hpath
    have hsource : c.relativize (String.ofList (trim path.toList)) = c.relativize path := by
      refine OutputContext.relativize_congr ?_
      rw [String.toList_ofList, trim_trim]
    simp [opening, language, hpath, hfound, hsource]

theorem ofText_head {c : OutputContext} {e : Entry} (h : e.Readable) :
    ofText c (trim e.head) = .language (e.opening c) := by
  have hstart : trimStart (e.outcome.glyph :: ' ' :: (e.name.toList ++ ": ".toList)) =
      e.outcome.glyph :: ' ' :: (e.name.toList ++ ": ".toList) :=
    trimStart_cons_of_not_isBlank _ e.outcome.isBlank_glyph
  have htrim : trim e.head =
      e.outcome.glyph :: ' ' :: (e.name.toList ++ ": ".toList ++ trimEnd e.outcome.text) :=
    trim_append_of_trimStart_eq hstart (by simp) (Outcome.trimEnd_text_ne_nil h.outcome)
  rw [htrim, ofText, List.isEmpty_cons, if_neg (by decide), Outcome.dropLead?_featureMarker_glyph,
    Outcome.language?_glyph, verdict?_rest h]

end Entry

/-! ## Feature lines -/

theorem Block.ofText_head (c : OutputContext) (b : Block) :
    ofText c (trim b.head) = .feature (c.relativize b.path) := by
  have hmarker : trimEnd featureMarker.toList = featureMarker.toList := by decide
  have htrim : trim b.head = featureMarker.toList ++ trimEnd (' ' :: b.path.toList) :=
    (trim_cons_of_not_isBlank _ (by decide)).trans (trimEnd_append_of_trimEnd_eq _ hmarker)
  have hpath : c.relativize (String.ofList (trimEnd (' ' :: b.path.toList))) =
      c.relativize b.path := by
    refine OutputContext.relativize_congr ?_
    rw [String.toList_ofList, trim_trimEnd, trim_cons_space]
  have hempty : (featureMarker.toList ++ trimEnd (' ' :: b.path.toList)).isEmpty = false := rfl
  rw [htrim, ofText, hempty, if_neg (by decide), dropLead?_append]
  exact congrArg LogLine.feature hpath

end PrintedLog

end SpecCoverage
