-- SUMMARY: What a specification text declares, said of its lines: which tags stand above which line.
import Mathlib.Data.List.Infix
import SpecCoverage.Feature.Reader
import SpecCoverage.Proofs.Cutting

/-!
# What a specification declares

The lines of a specification are told apart by what they start with, each line by itself. Tags stand
above a line when no boundary lies between (`tagsAbove`), so what belongs to a scenario is found by
looking back from its line. Nothing here reads lines in order; the last section says how the answers
grow with a line at the end.
-/
namespace SpecCoverage

open Text

namespace Specification

-- ---------------------------------------------------------------------------
-- Lines
-- ---------------------------------------------------------------------------

def IsTagLine (l : List Char) : Prop := ['@'] <+: l

def IsFeatureLine (l : List Char) : Prop := "Feature:".toList <+: l

def IsScenarioLine (l : List Char) : Prop :=
  "Scenario:".toList <+: l ∨ "Scenario Outline:".toList <+: l

def IsComment (l : List Char) : Prop := ['#'] <+: l

/-- A keyword of steps, alone or before a space. -/
def IsStep (l : List Char) : Prop :=
  ∃ k ∈ ["Given", "When", "Then", "And", "But", "*"].map String.toList, l = k ∨ k ++ [' '] <+: l

/-- The lines of backgrounds, examples, rules, tables and quoted texts. -/
def IsStructural (l : List Char) : Prop :=
  ∃ k ∈ ["Background:", "Examples:", "Rule:", "|", "\"\"\""].map String.toList, k <+: l

/-- A line of none of the other kinds. -/
def IsProse (l : List Char) : Prop :=
  l ≠ [] ∧ ¬ IsTagLine l ∧ ¬ IsFeatureLine l ∧ ¬ IsScenarioLine l ∧ ¬ IsComment l ∧ ¬ IsStep l ∧
    ¬ IsStructural l

instance (l : List Char) : Decidable (IsTagLine l) := inferInstanceAs (Decidable (_ <+: _))

instance (l : List Char) : Decidable (IsFeatureLine l) := inferInstanceAs (Decidable (_ <+: _))

instance (l : List Char) : Decidable (IsScenarioLine l) := inferInstanceAs (Decidable (_ ∨ _))

instance (l : List Char) : Decidable (IsComment l) := inferInstanceAs (Decidable (_ <+: _))

instance (l : List Char) : Decidable (IsStep l) :=
  inferInstanceAs (Decidable (∃ k ∈ (_ : List (List Char)), l = k ∨ k ++ [' '] <+: l))

instance (l : List Char) : Decidable (IsStructural l) :=
  inferInstanceAs (Decidable (∃ k ∈ (_ : List (List Char)), k <+: l))

instance (l : List Char) : Decidable (IsProse l) := inferInstanceAs (Decidable (_ ∧ _))

/-- The name on a scenario line: what stands behind the first colon, without blanks around it. -/
def nameOf (l : List Char) : String :=
  String.ofList (trim ((l.dropWhile (· ≠ ':')).drop 1))

-- ---------------------------------------------------------------------------
-- Lines of a text
-- ---------------------------------------------------------------------------

/-- Does a line of a text, standing below `above`, keep the tags above it from what comes after? Prose
does so once there is a feature line. -/
def Bounds (above : List (List Char)) (l : List Char) : Prop :=
  IsFeatureLine l ∨ IsScenarioLine l ∨ IsProse l ∧ ∃ f ∈ above, IsFeatureLine f

instance (above : List (List Char)) (l : List Char) : Decidable (Bounds above l) :=
  inferInstanceAs (Decidable (_ ∨ _))

variable (ls : List (List Char))

/-- Is the line at an index a boundary? -/
def IsBoundary (k : Nat) : Prop := ∃ l ∈ ls[k]?, Bounds (ls.take k) l

instance (k : Nat) : Decidable (IsBoundary ls k) :=
  inferInstanceAs (Decidable (∃ l ∈ ls[k]?, Bounds (ls.take k) l))

/-- The tags on the line at an index, if it is a tag line. -/
def tagsAt (k : Nat) : List String :=
  (ls[k]?.toList.filter (IsTagLine ·)).flatMap Line.tagsOf

/-- Is there no boundary between the line at `j` and the one at `i` below it? -/
def Reaches (i j : Nat) : Prop := ∀ k ∈ List.range i, j < k → ¬ IsBoundary ls k

instance (i j : Nat) : Decidable (Reaches ls i j) :=
  inferInstanceAs (Decidable (∀ k ∈ List.range i, j < k → ¬ IsBoundary ls k))

/-- The tags on the lines above an index from which no boundary parts it. -/
def tagsAbove (i : Nat) : List String :=
  ((List.range i).filter (Reaches ls i ·)).flatMap (tagsAt ls)

/-- Is the line at an index a feature line? -/
def OpensFeature (k : Nat) : Prop := ∃ l ∈ ls[k]?, IsFeatureLine l

instance (k : Nat) : Decidable (OpensFeature ls k) :=
  inferInstanceAs (Decidable (∃ l ∈ ls[k]?, IsFeatureLine l))

/-- The tags of the closest feature line above an index. -/
def featureTagsAbove (i : Nat) : List String :=
  match ((List.range i).filter (OpensFeature ls ·)).getLast? with
  | some k => tagsAbove ls k
  | none => []

/-- Does the line at an index open a scenario of this name? -/
def Opens (i : Nat) (name : String) : Prop := ∃ l ∈ ls[i]?, IsScenarioLine l ∧ nameOf l = name

/-- Is the line at an index the first that opens a scenario of this name? -/
def OpensFirst (i : Nat) (name : String) : Prop :=
  Opens ls i name ∧ ∀ j < i, ¬ Opens ls j name

/-- The names on the scenario lines, each once, where it stands first. -/
def namesIn : List String :=
  ((ls.filter (IsScenarioLine ·)).map nameOf).eraseDups

end Specification

/-- Does a tag name a language before `ending`, in any case and behind any number of `@` signs? -/
def Tag.Names (policy : LanguagePolicy) (ending tag : String) (l : Language) : Prop :=
  ∃ name, name ≠ [] ∧ Tag.body tag = name ++ ending.toList ∧
    policy.resolve (String.ofList name) = l

open Specification in
/-- A feature says what the lines of its specification declare. -/
structure Feature.Declares (f : Feature) (policy : LanguagePolicy) (ls : List (List Char)) :
    Prop where
  names : f.scenarioNames = namesIn ls
  tags : f.tags = featureTagsAbove ls ls.length
  scenario : ∀ s ∈ f.scenarios, ∃ i, OpensFirst ls i s.name ∧ s.tags = tagsAbove ls i ∧
    (∀ l, l ∈ s.expected ↔
      ∃ t ∈ featureTagsAbove ls i ++ tagsAbove ls i, Tag.Names policy "_expected" t l) ∧
    (∀ l, l ∈ s.excluded ↔
      ∃ t ∈ featureTagsAbove ls i ++ tagsAbove ls i, Tag.Names policy "_not_needed" t l)

namespace Specification

-- ---------------------------------------------------------------------------
-- Kinds of lines
-- ---------------------------------------------------------------------------

section

variable {l : List Char}

theorem head?_of_isPrefix {c : Char} {p : List Char} (h : c :: p <+: l) : l.head? = some c := by
  obtain ⟨r, rfl⟩ := h
  rfl

theorem IsTagLine.head? (h : IsTagLine l) : l.head? = some '@' := head?_of_isPrefix h

theorem IsFeatureLine.head? (h : IsFeatureLine l) : l.head? = some 'F' := head?_of_isPrefix h

theorem IsScenarioLine.head? (h : IsScenarioLine l) : l.head? = some 'S' :=
  h.elim head?_of_isPrefix head?_of_isPrefix

theorem IsTagLine.not_isFeatureLine (h : IsTagLine l) : ¬ IsFeatureLine l := fun hf =>
  absurd (h.head?.symm.trans hf.head?) (by decide)

theorem IsTagLine.not_isScenarioLine (h : IsTagLine l) : ¬ IsScenarioLine l := fun hs =>
  absurd (h.head?.symm.trans hs.head?) (by decide)

theorem IsFeatureLine.not_isScenarioLine (h : IsFeatureLine l) : ¬ IsScenarioLine l := fun hs =>
  absurd (h.head?.symm.trans hs.head?) (by decide)

theorem IsTagLine.not_bounds {above : List (List Char)} (h : IsTagLine l) : ¬ Bounds above l := by
  rintro (hf | hs | ⟨hp, -⟩)
  · exact h.not_isFeatureLine hf
  · exact h.not_isScenarioLine hs
  · exact hp.2.1 h

theorem isStep_iff : Line.isStep l = true ↔ IsStep l := by
  simp only [Line.isStep, List.any_eq_true, IsStep, Line.stepKeywords]
  refine exists_congr fun k => and_congr_right fun _ => ?_
  cases hk : dropLead? k l with
  | none =>
    have hnot : ¬ k <+: l := dropLead?_eq_none_iff.1 hk
    have hself : l ≠ k := by
      rintro rfl
      exact hnot List.prefix_rfl
    have hspace : ¬ k ++ [' '] <+: l := fun h => hnot ((List.prefix_append k [' ']).trans h)
    simp [hself, hspace]
  | some rest =>
    obtain rfl := dropLead?_eq_some_iff.1 hk
    simp [startsWith_iff, List.prefix_append_right_inj]

theorem isNeutral_iff : Line.isNeutral l = true ↔ IsComment l ∨ IsStructural l := by
  simp [Line.isNeutral, Line.neutralOpenings, IsComment, IsStructural, startsWith_iff]

theorem scenarioName?_eq :
    Line.scenarioName? l = if IsScenarioLine l then some (nameOf l) else none := by
  rw [Line.scenarioName?, Line.scenarioKeywords, List.map_cons, List.findSome?_cons]
  cases hlong : dropLead? "Scenario Outline:".toList l with
  | some rest =>
    obtain rfl := dropLead?_eq_some_iff.1 hlong
    have hline : IsScenarioLine ("Scenario Outline:".toList ++ rest) :=
      .inr (List.prefix_append _ rest)
    rw [if_pos hline]
    rfl
  | none =>
    cases hshort : dropLead? "Scenario:".toList l with
    | some rest =>
      obtain rfl := dropLead?_eq_some_iff.1 hshort
      have hline : IsScenarioLine ("Scenario:".toList ++ rest) := .inl (List.prefix_append _ rest)
      rw [if_pos hline]
      rfl
    | none =>
      have hline : ¬ IsScenarioLine l :=
        not_or.2 ⟨dropLead?_eq_none_iff.1 hshort, dropLead?_eq_none_iff.1 hlong⟩
      rw [if_neg hline, List.map_cons, List.findSome?_cons, hshort]
      rfl

/-- What a line is for the structure of a specification. -/
inductive Kind (l : List Char) : Line → Prop
  | tags (h : IsTagLine l) : Kind l (.tags (Line.tagsOf l))
  | feature (title : String) (h : IsFeatureLine l) : Kind l (.feature title)
  | scenario (h : IsScenarioLine l) : Kind l (.scenario (nameOf l))
  | neutral (hfeature : ¬ IsFeatureLine l) (hscenario : ¬ IsScenarioLine l) (htag : ¬ IsTagLine l)
    (hprose : ¬ IsProse l) : Kind l .neutral
  | prose (h : IsProse l) : Kind l .prose

theorem kind_ofText (l : List Char) : Kind l (Line.ofText l) := by
  unfold Line.ofText
  split
  · rename_i hempty
    obtain rfl := List.isEmpty_iff.1 hempty
    exact .neutral (by decide) (by decide) (by decide) (by decide)
  rename_i hne
  split
  · rename_i htag
    exact .tags (startsWith_iff.1 htag)
  rename_i hnotTag
  have htag : ¬ IsTagLine l := mt startsWith_iff.2 hnotTag
  split
  · rename_i rest hrest
    exact .feature _ ⟨rest, (dropLead?_eq_some_iff.1 hrest).symm⟩
  rename_i hnone
  have hfeature : ¬ IsFeatureLine l := dropLead?_eq_none_iff.1 hnone
  rw [scenarioName?_eq]
  by_cases hscenario : IsScenarioLine l
  · rw [if_pos hscenario]
    exact .scenario hscenario
  rw [if_neg hscenario]
  -- What is left is told apart by whether the line is a step, a comment or structural.
  have hprose : IsProse l ↔ ¬ (Line.isStep l || Line.isNeutral l) = true := by
    rw [Bool.or_eq_true, isStep_iff, isNeutral_iff]
    simp only [IsProse, htag, hfeature, hscenario, not_false_iff, true_and, not_or]
    have hne' : l ≠ [] := mt List.isEmpty_iff.2 hne
    tauto
  by_cases h : (Line.isStep l || Line.isNeutral l) = true
  · simp only [if_pos h]
    exact .neutral hfeature hscenario htag fun hp => hprose.1 hp h
  · simp only [if_neg h]
    exact .prose (hprose.2 h)

end

-- ---------------------------------------------------------------------------
-- A line at the end
-- ---------------------------------------------------------------------------

variable {ls ms : List (List Char)} {l : List Char} {i k : Nat}

theorem isBoundary_append (hk : k < ls.length) : IsBoundary (ls ++ ms) k ↔ IsBoundary ls k := by
  rw [IsBoundary, IsBoundary, List.getElem?_append_left hk,
    List.take_append_of_le_length (Nat.le_of_lt hk)]

theorem isBoundary_concat : IsBoundary (ls ++ [l]) ls.length ↔ Bounds ls l := by
  simp [IsBoundary]

theorem tagsAt_append (hk : k < ls.length) : tagsAt (ls ++ ms) k = tagsAt ls k := by
  rw [tagsAt, tagsAt, List.getElem?_append_left hk]

theorem tagsAt_concat :
    tagsAt (ls ++ [l]) ls.length = if IsTagLine l then Line.tagsOf l else [] := by
  by_cases h : IsTagLine l <;> simp [tagsAt, h]

theorem reaches_append {j : Nat} (hi : i ≤ ls.length) :
    Reaches (ls ++ ms) i j ↔ Reaches ls i j := by
  refine forall₂_congr fun k hk => ?_
  rw [isBoundary_append (Nat.lt_of_lt_of_le (List.mem_range.1 hk) hi)]

/-- Past a line at the end reach the lines that reached the end, unless the line is a boundary. -/
theorem reaches_concat {j : Nat} (hj : j < ls.length) :
    Reaches (ls ++ [l]) (ls.length + 1) j ↔ Reaches ls ls.length j ∧ ¬ Bounds ls l := by
  have hkept : Reaches (ls ++ [l]) ls.length j ↔ Reaches ls ls.length j :=
    reaches_append (Nat.le_refl _)
  rw [← hkept, ← isBoundary_concat]
  simp only [Reaches, List.range_succ, List.forall_mem_append, List.forall_mem_singleton, hj,
    forall_const]

theorem reaches_concat_self : Reaches (ls ++ [l]) (ls.length + 1) ls.length := by
  intro k hk hlt
  have hle := List.mem_range.1 hk
  omega

/-- What stands below a line does not change which tags stand above it. -/
theorem tagsAbove_append (hi : i ≤ ls.length) : tagsAbove (ls ++ ms) i = tagsAbove ls i := by
  have hfilter : (List.range i).filter (Reaches (ls ++ ms) i ·) =
      (List.range i).filter (Reaches ls i ·) :=
    List.filter_congr fun j _ => decide_eq_decide.2 (reaches_append hi)
  rw [tagsAbove, tagsAbove, hfilter]
  refine List.flatMap_congr fun j hj => ?_
  have hlt := List.mem_range.1 (List.mem_of_mem_filter hj)
  exact tagsAt_append (Nat.lt_of_lt_of_le hlt hi)

/-- The tags above the end of a text: a boundary takes them away, any other line adds its own. -/
theorem tagsAbove_concat :
    tagsAbove (ls ++ [l]) (ls.length + 1) =
      if Bounds ls l then [] else
        tagsAbove ls ls.length ++ if IsTagLine l then Line.tagsOf l else [] := by
  have hfilter : (List.range (ls.length + 1)).filter (Reaches (ls ++ [l]) (ls.length + 1) ·) =
      (List.range ls.length).filter (fun j => decide (Reaches ls ls.length j ∧ ¬ Bounds ls l)) ++
        [ls.length] := by
    rw [List.range_succ, List.filter_append]
    congr 1
    · refine List.filter_congr fun j hj => decide_eq_decide.2 ?_
      exact reaches_concat (List.mem_range.1 hj)
    · simp [reaches_concat_self]
  rw [tagsAbove, hfilter, List.flatMap_append, List.flatMap_singleton, tagsAt_concat]
  by_cases hbounds : Bounds ls l
  · have hnotTag : ¬ IsTagLine l := fun h => h.not_bounds hbounds
    simp [hbounds, hnotTag]
  · have htags : ((List.range ls.length).filter (Reaches ls ls.length ·)).flatMap
        (tagsAt (ls ++ [l])) = tagsAbove ls ls.length :=
      List.flatMap_congr fun j hj =>
        tagsAt_append (List.mem_range.1 (List.mem_of_mem_filter hj))
    simp only [hbounds, not_false_iff, and_true, if_false, htags]

theorem opensFeature_append (hk : k < ls.length) :
    OpensFeature (ls ++ ms) k ↔ OpensFeature ls k := by
  rw [OpensFeature, OpensFeature, List.getElem?_append_left hk]

theorem opensFeature_concat : OpensFeature (ls ++ [l]) ls.length ↔ IsFeatureLine l := by
  simp [OpensFeature]

theorem featureTagsAbove_append (hi : i ≤ ls.length) :
    featureTagsAbove (ls ++ ms) i = featureTagsAbove ls i := by
  have hlt {k : Nat} (hk : k ∈ List.range i) : k < ls.length :=
    Nat.lt_of_lt_of_le (List.mem_range.1 hk) hi
  have hfilter : (List.range i).filter (OpensFeature (ls ++ ms) ·) =
      (List.range i).filter (OpensFeature ls ·) :=
    List.filter_congr fun k hk => decide_eq_decide.2 (opensFeature_append (hlt hk))
  rw [featureTagsAbove, featureTagsAbove, hfilter]
  split
  · rename_i k hk
    have hmem := List.mem_of_mem_filter (List.mem_of_getLast? hk)
    exact tagsAbove_append (Nat.le_of_lt (hlt hmem))
  · rfl

/-- The tags of the last feature line of a text: those above it, where the line at the end is one. -/
theorem featureTagsAbove_concat :
    featureTagsAbove (ls ++ [l]) (ls.length + 1) =
      if IsFeatureLine l then tagsAbove ls ls.length else featureTagsAbove ls ls.length := by
  have hkept : featureTagsAbove (ls ++ [l]) ls.length = featureTagsAbove ls ls.length :=
    featureTagsAbove_append (Nat.le_refl _)
  rw [← hkept, featureTagsAbove, featureTagsAbove, List.range_succ, List.filter_append]
  by_cases h : IsFeatureLine l
  · have hself : [ls.length].filter (OpensFeature (ls ++ [l]) ·) = [ls.length] := by
      simp [opensFeature_concat, h]
    rw [hself, List.getLast?_concat, if_pos h]
    exact tagsAbove_append (Nat.le_refl _)
  · have hnone : [ls.length].filter (OpensFeature (ls ++ [l]) ·) = [] := by
      simp [opensFeature_concat, h]
    rw [hnone, List.append_nil, if_neg h]

theorem opens_append {name : String} (hi : i < ls.length) :
    Opens (ls ++ ms) i name ↔ Opens ls i name := by
  rw [Opens, Opens, List.getElem?_append_left hi]

theorem opens_concat {name : String} :
    Opens (ls ++ [l]) ls.length name ↔ IsScenarioLine l ∧ nameOf l = name := by
  simp [Opens]

theorem OpensFirst.lt {name : String} (h : OpensFirst ls i name) : i < ls.length := by
  obtain ⟨⟨l, hl, -⟩, -⟩ := h
  exact (List.getElem?_eq_some_iff.1 hl).1

theorem OpensFirst.append {name : String} (h : OpensFirst ls i name) :
    OpensFirst (ls ++ ms) i name := by
  refine ⟨(opens_append h.lt).2 h.1, fun j hj => ?_⟩
  rw [opens_append (Nat.lt_trans hj h.lt)]
  exact h.2 j hj

theorem mem_namesIn {name : String} :
    name ∈ namesIn ls ↔ ∃ l ∈ ls, IsScenarioLine l ∧ nameOf l = name := by
  simp only [namesIn, List.mem_eraseDups, List.mem_map, List.mem_filter, decide_eq_true_eq,
    and_assoc]

/-- The names are those that lines open. -/
theorem exists_opens_iff {name : String} : (∃ i, Opens ls i name) ↔ name ∈ namesIn ls := by
  rw [mem_namesIn]
  constructor
  · rintro ⟨i, l, hl, hname⟩
    exact ⟨l, List.mem_of_getElem? hl, hname⟩
  · rintro ⟨l, hl, hname⟩
    obtain ⟨i, hi⟩ := List.getElem?_of_mem hl
    exact ⟨i, l, hi, hname⟩

theorem opensFirst_concat (hline : IsScenarioLine l) (hnew : nameOf l ∉ namesIn ls) :
    OpensFirst (ls ++ [l]) ls.length (nameOf l) := by
  refine ⟨opens_concat.2 ⟨hline, rfl⟩, fun j hj hopens => hnew ?_⟩
  exact exists_opens_iff.1 ⟨j, (opens_append hj).1 hopens⟩

/-- A name that was not there comes last; one that was is not repeated. -/
theorem namesIn_concat :
    namesIn (ls ++ [l]) =
      if IsScenarioLine l ∧ nameOf l ∉ namesIn ls then namesIn ls ++ [nameOf l]
      else namesIn ls := by
  by_cases hline : IsScenarioLine l
  · have hfilter : (ls ++ [l]).filter (IsScenarioLine ·) = ls.filter (IsScenarioLine ·) ++ [l] := by
      simp [hline]
    have hmem : nameOf l ∈ namesIn ls ↔ nameOf l ∈ (ls.filter (IsScenarioLine ·)).map nameOf :=
      List.mem_eraseDups
    rw [namesIn, hfilter, List.map_append, List.eraseDups_append, ← namesIn]
    by_cases hold : nameOf l ∈ namesIn ls
    · simp [hold, List.removeAll, hmem.1 hold]
    · have hnew := mt hmem.2 hold
      simp [hline, hold, List.removeAll, hnew, List.eraseDups_cons]
  · simp [namesIn, List.filter_append, hline]

end Specification

end SpecCoverage
