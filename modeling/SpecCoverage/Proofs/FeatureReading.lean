-- SUMMARY: A feature that is read line by line says what its specification declares.
import SpecCoverage.Proofs.SpecificationText

/-!
# Reading what a specification declares

Lines are read in order with the tags that wait, the feature line that holds and the names seen so
far. After any number of lines these are what `Specification` finds by looking back from the end
(`Reading.Follows`): each line keeps that, whichever kind it is of.
-/
namespace SpecCoverage

open Text Specification

/-! ## Languages named by tags -/

theorem Tag.language?_eq_some_iff {policy : LanguagePolicy} {ending tag : String} {l : Language} :
    Tag.language? policy ending tag = some l ↔ Tag.Names policy ending tag l := by
  unfold language? Names
  simp only [← dropTail?_eq_some_iff]
  cases h : dropTail? ending.toList (body tag) with
  | none => simp
  | some name =>
    cases name with
    | nil => simp
    | cons c name => simp

theorem Tag.mem_languages {policy : LanguagePolicy} {ending : String} {tags : List String}
    {l : Language} :
    l ∈ Tag.languages policy ending tags ↔ ∃ t ∈ tags, Tag.Names policy ending t l := by
  simp only [languages, SortedSet.mem_ofList, List.mem_filterMap, language?_eq_some_iff]

namespace Reading

/-! ## Line by line -/

/-- What has been read says what the lines so far declare. -/
structure Follows (policy : LanguagePolicy) (ls : List (List Char)) (r : Reading) : Prop where
  pending : r.pending.reverse = tagsAbove ls ls.length
  titled : r.title?.isSome ↔ ∃ f ∈ ls, IsFeatureLine f
  featureTags : r.featureTags = featureTagsAbove ls ls.length
  names : r.scenarios.reverse.map (·.name) = namesIn ls
  scenario : ∀ s ∈ r.scenarios, ∃ i, OpensFirst ls i s.name ∧
    s = .ofTags policy s.name (featureTagsAbove ls i) (tagsAbove ls i)

variable {policy : LanguagePolicy} {ls : List (List Char)} {r : Reading}

theorem follows_start (policy : LanguagePolicy) : start.Follows policy [] where
  pending := rfl
  titled := by simp [start]
  featureTags := rfl
  names := rfl
  scenario := by simp [start]

/-- A line that opens no new scenario keeps the scenarios. -/
theorem Follows.scenario_append (h : r.Follows policy ls) (l : List Char) :
    ∀ s ∈ r.scenarios, ∃ i, OpensFirst (ls ++ [l]) i s.name ∧
      s = .ofTags policy s.name (featureTagsAbove (ls ++ [l]) i) (tagsAbove (ls ++ [l]) i) := by
  intro s hs
  obtain ⟨i, hfirst, heq⟩ := h.scenario s hs
  have hi := Nat.le_of_lt hfirst.lt
  exact ⟨i, hfirst.append, by rwa [featureTagsAbove_append hi, tagsAbove_append hi]⟩

theorem Follows.any_name_iff (h : r.Follows policy ls) (name : String) :
    r.scenarios.any (·.name == name) = true ↔ name ∈ namesIn ls := by
  rw [← h.names]
  simp

/-- A line that opens no feature and no new scenario may only change which tags wait. -/
theorem Follows.pass (h : r.Follows policy ls) {l : List Char} {pending : List String}
    (hfeature : ¬ IsFeatureLine l) (hnames : namesIn (ls ++ [l]) = namesIn ls)
    (hpending : pending.reverse = tagsAbove (ls ++ [l]) (ls.length + 1)) :
    { r with pending := pending }.Follows policy (ls ++ [l]) where
  pending := by
    rw [List.length_append]
    exact hpending
  titled := by
    rw [h.titled]
    simp [hfeature]
  featureTags := by
    rw [List.length_append, List.length_singleton, featureTagsAbove_concat, if_neg hfeature]
    exact h.featureTags
  names := by
    rw [hnames]
    exact h.names
  scenario := h.scenario_append l

/-- A feature line takes the tags that wait. -/
theorem Follows.feature (h : r.Follows policy ls) {l : List Char} (title : String)
    (hfeature : IsFeatureLine l) :
    (r.step policy (.feature title)).Follows policy (ls ++ [l]) where
  pending := by
    have hbounds : Bounds ls l := .inl hfeature
    rw [List.length_append, List.length_singleton, tagsAbove_concat, if_pos hbounds]
    rfl
  titled := by
    constructor
    · intro _
      exact ⟨l, by simp, hfeature⟩
    · intro _
      rfl
  featureTags := by
    rw [List.length_append, List.length_singleton, featureTagsAbove_concat, if_pos hfeature]
    exact h.pending
  names := by
    rw [namesIn_concat, if_neg fun hs => hfeature.not_isScenarioLine hs.1]
    exact h.names
  scenario := h.scenario_append l

/-- A scenario line of a new name takes the tags that wait and those of the feature line. -/
theorem Follows.newScenario (h : r.Follows policy ls) {l : List Char} (hline : IsScenarioLine l)
    (hnew : nameOf l ∉ namesIn ls) :
    { r with
      pending := []
      scenarios := .ofTags policy (nameOf l) r.featureTags r.pending.reverse :: r.scenarios
      }.Follows policy (ls ++ [l]) where
  pending := by
    have hbounds : Bounds ls l := .inr (.inl hline)
    rw [List.length_append, List.length_singleton, tagsAbove_concat, if_pos hbounds]
    rfl
  titled := by
    have hfeature : ¬ IsFeatureLine l := fun hf => hf.not_isScenarioLine hline
    rw [h.titled]
    simp [hfeature]
  featureTags := by
    have hfeature : ¬ IsFeatureLine l := fun hf => hf.not_isScenarioLine hline
    rw [List.length_append, List.length_singleton, featureTagsAbove_concat, if_neg hfeature]
    exact h.featureTags
  names := by
    rw [namesIn_concat, if_pos ⟨hline, hnew⟩, ← h.names, List.reverse_cons, List.map_append]
    rfl
  scenario := by
    intro s hs
    rcases List.mem_cons.1 hs with rfl | hs
    · refine ⟨ls.length, opensFirst_concat hline hnew, ?_⟩
      rw [featureTagsAbove_append (Nat.le_refl _), tagsAbove_append (Nat.le_refl _),
        ← h.featureTags, ← h.pending]
      rfl
    · exact h.scenario_append l s hs

/-- Each line keeps what has been read in step with what the lines declare. -/
theorem Follows.step (h : r.Follows policy ls) (l : List Char) :
    (r.step policy (Line.ofText l)).Follows policy (ls ++ [l]) := by
  have hkind := kind_ofText l
  generalize Line.ofText l = line at hkind
  cases hkind with
  | tags htag =>
    refine h.pass htag.not_isFeatureLine ?_ ?_
    · rw [namesIn_concat, if_neg fun hs => htag.not_isScenarioLine hs.1]
    · rw [tagsAbove_concat, if_neg htag.not_bounds, if_pos htag, ← h.pending]
      simp
  | feature title hfeature => exact h.feature title hfeature
  | scenario hline =>
    have hfeature : ¬ IsFeatureLine l := fun hf => hf.not_isScenarioLine hline
    rw [Reading.step]
    split
    · rename_i hold
      have hmem := (h.any_name_iff _).1 hold
      refine h.pass hfeature ?_ ?_
      · rw [namesIn_concat, if_neg fun hs => hs.2 hmem]
      · have hbounds : Bounds ls l := .inr (.inl hline)
        rw [tagsAbove_concat, if_pos hbounds]
        rfl
    · rename_i hnew
      exact h.newScenario hline fun hmem => hnew ((h.any_name_iff _).2 hmem)
  | neutral hfeature hscenario htag hprose =>
    have hbounds : ¬ Bounds ls l := by
      rintro (hf | hs | ⟨hp, -⟩)
      · exact hfeature hf
      · exact hscenario hs
      · exact hprose hp
    refine h.pass hfeature ?_ ?_
    · rw [namesIn_concat, if_neg fun hs => hscenario hs.1]
    · rw [tagsAbove_concat, if_neg hbounds, if_neg htag, List.append_nil]
      exact h.pending
  | prose hprose =>
    have ⟨_, htag, hfeature, hscenario, _⟩ := hprose
    have hnames : namesIn (ls ++ [l]) = namesIn ls := by
      rw [namesIn_concat, if_neg fun hs => hscenario hs.1]
    -- Prose is a boundary just when the reading has met a feature line.
    have hbounds : Bounds ls l ↔ r.title?.isSome := by
      rw [h.titled]
      exact ⟨fun hb => (hb.resolve_left hfeature |>.resolve_left hscenario).2,
        fun hf => .inr (.inr ⟨hprose, hf⟩)⟩
    rw [Reading.step]
    split
    · rename_i htitled
      refine h.pass hfeature hnames ?_
      rw [tagsAbove_concat, if_pos (hbounds.2 htitled)]
      rfl
    · rename_i huntitled
      refine h.pass hfeature hnames ?_
      rw [tagsAbove_concat, if_neg (mt hbounds.1 huntitled), if_neg htag, List.append_nil]
      exact h.pending

theorem follows_ofLines (policy : LanguagePolicy) (ls : List (List Char)) :
    (ofLines policy (ls.map Line.ofText)).Follows policy ls := by
  induction ls using List.reverseRecOn with
  | nil => exact follows_start policy
  | append_singleton ls l ih =>
    rw [ofLines, List.map_append, List.foldl_append]
    exact ih.step l

end Reading

/-- Prose above the feature line drops no tags, prose below it does, and a step never does. -/
example :
    let ls := ["@go", "About", "Feature: F", "@old", "About", "@new", "Given x",
      "Scenario: S"].map String.toList
    featureTagsAbove ls 7 = ["@go"] ∧ tagsAbove ls 7 = ["@new"] := by decide

end SpecCoverage
