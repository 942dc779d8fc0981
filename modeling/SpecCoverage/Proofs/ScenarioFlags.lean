-- SUMMARY: When a scenario is to do, said of the tags in force on its line, and edits of tags that change no flag.
import Mathlib.Data.List.Forall2
import Mathlib.Logic.Relation
import SpecCoverage.Proofs.FeatureReading

/-!
# What tags say of scenarios

Whether a scenario is to do for a language follows from the tags above its line and those of the
feature line before it. Two texts that differ in the case of tags, or in tags of feature lines that
declare nothing, are read alike (`Reading.Alike`): each line keeps the readings in step.
-/
namespace SpecCoverage

open Text Specification

-- ---------------------------------------------------------------------------
-- Tags
-- ---------------------------------------------------------------------------

namespace Tag

/-- Does a tag end in `ending`, in any case? -/
def EndsIn (ending tag : String) : Prop := ending.toList <:+ body tag

/-- Does a tag name a driver test of a language? Of `_e2e` and `_int` the one at its end is taken
off, and what is left names the language. -/
def Drives (policy : LanguagePolicy) (tag : String) (l : Language) : Prop :=
  ∃ name, name ≠ [] ∧ policy.resolve (String.ofList name) = l ∧
    (body tag = name ++ "_e2e".toList ∨
      ¬ EndsIn "_e2e" tag ∧ body tag = name ++ "_int".toList ∨
      ¬ EndsIn "_e2e" tag ∧ ¬ EndsIn "_int" tag ∧ body tag = name)

/-- A tag that neither expects a scenario nor spares one. -/
structure DeclaresNothing (tag : String) : Prop where
  not_expected : ¬ EndsIn "_expected" tag
  not_notNeeded : ¬ EndsIn "_not_needed" tag

instance (ending tag : String) : Decidable (EndsIn ending tag) :=
  inferInstanceAs (Decidable (_ <:+ _))

instance (tag : String) : Decidable (DeclaresNothing tag) :=
  decidable_of_iff (¬ EndsIn "_expected" tag ∧ ¬ EndsIn "_not_needed" tag)
    ⟨fun ⟨h, h'⟩ => ⟨h, h'⟩, fun ⟨h, h'⟩ => ⟨h, h'⟩⟩

variable {policy : LanguagePolicy} {tag : String} {l : Language}

theorem Names.endsIn {ending : String} (h : Names policy ending tag l) : EndsIn ending tag := by
  obtain ⟨name, -, hbody, -⟩ := h
  exact ⟨name, hbody.symm⟩

/-- What the endings of driver tags leave of a tag: the first of them that it has is taken off. -/
theorem findSome?_driverEndings_iff {name : List Char} :
    driverEndings.findSome? (fun e => dropTail? e.toList (body tag)) = some name ↔
      body tag = name ++ "_e2e".toList ∨
        ¬ EndsIn "_e2e" tag ∧ body tag = name ++ "_int".toList ∨
        ¬ EndsIn "_e2e" tag ∧ ¬ EndsIn "_int" tag ∧ body tag = name := by
  have hempty : dropTail? "".toList (body tag) = some (body tag) :=
    dropTail?_eq_some_iff.2 (List.append_nil _).symm
  unfold driverEndings EndsIn
  simp only [List.findSome?_cons, hempty, ← dropTail?_eq_some_iff, ← dropTail?_eq_none_iff]
  cases dropTail? "_e2e".toList (body tag) with
  | some rest => simp
  | none => cases dropTail? "_int".toList (body tag) <;> simp

theorem driver?_eq_some_iff : driver? policy tag = some l ↔ Drives policy tag l := by
  unfold driver? Drives
  simp only [← findSome?_driverEndings_iff]
  cases driverEndings.findSome? fun e => dropTail? e.toList (body tag) with
  | none => simp
  | some name =>
    cases name with
    | nil => simp
    | cons c name => simp

theorem mem_drivers {tags : List String} :
    l ∈ drivers policy tags ↔ ∃ t ∈ tags, Drives policy t l := by
  simp only [drivers, SortedSet.mem_ofList, List.mem_filterMap, driver?_eq_some_iff]

end Tag

/-- Do tags leave a scenario to do for a language? No tag in force spares it, and one expects it or
none of its own names a driver test. -/
def Tag.LeaveTodo (policy : LanguagePolicy) (featureTags tags : List String) (l : Language) :
    Prop :=
  (¬ ∃ t ∈ featureTags ++ tags, Names policy "_not_needed" t l) ∧
    ((∃ t ∈ featureTags ++ tags, Names policy "_expected" t l) ∨ ¬ ∃ t ∈ tags, Drives policy t l)

theorem Scenario.isTodoFor_ofTags {policy : LanguagePolicy} {name : String}
    {featureTags tags : List String} {l : Language} :
    (ofTags policy name featureTags tags).isTodoFor l = true ↔
      Tag.LeaveTodo policy featureTags tags l := by
  unfold isTodoFor isExcludedFor
  rw [Bool.and_eq_true, Bool.or_eq_true, Bool.not_eq_true', Bool.not_eq_true', decide_eq_true_eq,
    decide_eq_false_iff_not, decide_eq_false_iff_not]
  exact and_congr (not_congr Tag.mem_languages)
    (or_congr Tag.mem_languages (not_congr Tag.mem_drivers))

-- ---------------------------------------------------------------------------
-- Case
-- ---------------------------------------------------------------------------

namespace Text

theorem isBlank_lowerChar (c : Char) : isBlank (lowerChar c) = isBlank c := by
  by_cases h : c.toNat < 128
  · exact forall_ascii (p := fun c => isBlank (lowerChar c) = isBlank c) (by decide +kernel) h
  · rw [lowerChar_of_le (Nat.le_of_not_lt h)]

theorem lowerChar_eq_at_iff (c : Char) : lowerChar c = '@' ↔ c = '@' := by
  by_cases h : c.toNat < 128
  · exact forall_ascii (p := fun c => lowerChar c = '@' ↔ c = '@') (by decide +kernel) h
  · rw [lowerChar_of_le (Nat.le_of_not_lt h)]

theorem splitAtChars_map {p : Char → Bool} {f : Char → Char} (hf : ∀ c, p (f c) = p c)
    (s : List Char) : splitAtChars p (s.map f) = (splitAtChars p s).map (List.map f) := by
  induction s with
  | nil => rfl
  | cons c s ih =>
    rw [List.map_cons, splitAtChars_cons, splitAtChars_cons, hf, ih]
    split
    · rfl
    · cases splitAtChars p s <;> rfl

theorem words_lowerAscii (s : List Char) : words (lowerAscii s) = (words s).map lowerAscii := by
  unfold words lowerAscii
  rw [splitAtChars_map isBlank_lowerChar, List.filter_map]
  congr 1
  refine List.filter_congr fun w _ => ?_
  simp

theorem startsWith_at_lowerAscii (w : List Char) :
    startsWith ['@'] (lowerAscii w) = startsWith ['@'] w := by
  rw [Bool.eq_iff_iff, startsWith_iff, startsWith_iff]
  cases w with
  | nil => rfl
  | cons c w =>
    have hat : '@' = lowerChar c ↔ '@' = c := by rw [eq_comm, lowerChar_eq_at_iff, eq_comm]
    simp [lowerAscii, List.cons_prefix_cons, hat]

end Text

/-- Tags in lower case. -/
def Tag.lowered (tags : List String) : List (List Char) :=
  tags.map fun t => lowerAscii t.toList

namespace Tag

variable {tags tags' : List String}

theorem body_eq (tag : String) : body tag = (lowerAscii tag.toList).dropWhile (· == '@') := by
  unfold body lowerAscii
  rw [List.dropWhile_map]
  congr 2
  funext c
  simp [lowerChar_eq_at_iff]

/-- The tags on a line in lower case are those on the line in lower case. -/
theorem lowered_tagsOf (line : List Char) :
    lowered (Line.tagsOf line) = (words (lowerAscii line)).filter (startsWith ['@']) := by
  unfold lowered Line.tagsOf
  rw [words_lowerAscii, List.filter_map, List.map_map]
  simp [Function.comp_def, startsWith_at_lowerAscii]

/-- What is said of tags without their `@` signs and in lower case is said of tags in any case. -/
theorem exists_iff_of_lowered {P : String → Prop} (hbody : ∀ t u, body t = body u → P t → P u)
    (h : lowered tags' = lowered tags) : (∃ t ∈ tags', P t) ↔ ∃ t ∈ tags, P t := by
  have himp {tags tags' : List String} (h : lowered tags' = lowered tags) :
      (∃ t ∈ tags', P t) → ∃ t ∈ tags, P t := by
    rintro ⟨t, ht, hP⟩
    have hmem : lowerAscii t.toList ∈ lowered tags := h ▸ List.mem_map_of_mem ht
    obtain ⟨u, hu, heq⟩ := List.mem_map.1 hmem
    exact ⟨u, hu, hbody t u (by rw [body_eq, body_eq, heq]) hP⟩
  exact ⟨himp h, himp h.symm⟩

theorem Names.congr {policy : LanguagePolicy} {ending t u : String} {l : Language}
    (hbody : body t = body u) (h : Names policy ending t l) : Names policy ending u l := by
  rwa [Names, ← hbody]

theorem Drives.congr {policy : LanguagePolicy} {t u : String} {l : Language}
    (hbody : body t = body u) (h : Drives policy t l) : Drives policy u l := by
  rwa [Drives, EndsIn, EndsIn, ← hbody]

end Tag

/-! ### Tags that say the same -/

/-- Two lists of tags expect and spare the same languages. -/
def Tag.SameDeclared (policy : LanguagePolicy) (tags tags' : List String) : Prop :=
  ∀ ending ∈ ["_expected", "_not_needed"], ∀ l,
    (∃ t ∈ tags', Names policy ending t l) ↔ ∃ t ∈ tags, Names policy ending t l

namespace Tag

variable {policy : LanguagePolicy} {tags tags' : List String}

theorem SameDeclared.of_lowered (h : lowered tags' = lowered tags) :
    SameDeclared policy tags tags' :=
  fun _ _ _ => exists_iff_of_lowered (fun _ _ => Names.congr) h

theorem SameDeclared.append {more more' : List String} (h : SameDeclared policy tags tags')
    (hmore : SameDeclared policy more more') :
    SameDeclared policy (tags ++ more) (tags' ++ more') := by
  intro ending hending l
  simp only [List.mem_append, or_and_right, exists_or]
  exact or_congr (h ending hending l) (hmore ending hending l)

theorem SameDeclared.reverse (h : SameDeclared policy tags tags') :
    SameDeclared policy tags.reverse tags'.reverse := by
  intro ending hending l
  simp only [List.mem_reverse]
  exact h ending hending l

/-- Tags that declare nothing may be added. -/
theorem SameDeclared.of_declaresNothing {more : List String}
    (hmore : ∀ t ∈ more, DeclaresNothing t) :
    SameDeclared policy [] more := by
  intro ending hending l
  refine iff_of_false ?_ (by simp)
  rintro ⟨t, ht, hnames⟩
  rcases List.mem_pair.1 hending with rfl | rfl
  · exact (hmore t ht).not_expected hnames.endsIn
  · exact (hmore t ht).not_notNeeded hnames.endsIn

end Tag

/-! ### Scenarios with the same flags -/

/-- Two scenarios of one name have the same level, and no language tells them apart. -/
structure Scenario.SameFlags (s s' : Scenario) : Prop where
  name : s'.name = s.name
  level : s'.level = s.level
  excluded : ∀ l, s'.isExcludedFor l = s.isExcludedFor l
  todo : ∀ l, s'.isTodoFor l = s.isTodoFor l

namespace Scenario

@[refl] theorem SameFlags.refl (s : Scenario) : SameFlags s s :=
  ⟨rfl, rfl, fun _ => rfl, fun _ => rfl⟩

theorem SameFlags.trans {s t u : Scenario} (h : SameFlags s t) (h' : SameFlags t u) :
    SameFlags s u where
  name := h'.name.trans h.name
  level := h'.level.trans h.level
  excluded l := (h'.excluded l).trans (h.excluded l)
  todo l := (h'.todo l).trans (h.todo l)

theorem SameFlags.forall₂_trans {ss ts us : List Scenario} (h : List.Forall₂ SameFlags ss ts)
    (h' : List.Forall₂ SameFlags ts us) : List.Forall₂ SameFlags ss us := by
  induction h generalizing us with
  | nil => exact h'
  | cons hst _ ih =>
    cases h' with
    | cons htu hrest => exact .cons (hst.trans htu) (ih hrest)

theorem level_eq (s : Scenario) :
    s.level = if (Tag.lowered s.tags).any (endsWith "_int".toList) then .integration
      else .endToEnd := by
  rw [level, Tag.lowered, List.any_map]
  rfl

/-- Scenarios with the same flags have the same names. -/
theorem SameFlags.any_name {ss ss' : List Scenario} (h : List.Forall₂ SameFlags ss ss')
    (name : String) : ss'.any (·.name == name) = ss.any (·.name == name) := by
  induction h with
  | nil => rfl
  | cons hflags _ ih => rw [List.any_cons, List.any_cons, hflags.name, ih]

/-- Flags follow from what is declared and from the scenario's own tags in lower case. -/
theorem sameFlags_ofTags {policy : LanguagePolicy} (name : String)
    {featureTags featureTags' tags tags' : List String}
    (hfeature : Tag.SameDeclared policy featureTags featureTags')
    (hown : Tag.lowered tags' = Tag.lowered tags) :
    SameFlags (ofTags policy name featureTags tags) (ofTags policy name featureTags' tags') where
  name := rfl
  level := by
    rw [level_eq, level_eq]
    change (if (Tag.lowered tags').any _ then _ else _) = _
    rw [hown]
    rfl
  excluded l := by
    have hsame := hfeature.append (.of_lowered hown) "_not_needed" (by simp) l
    rw [isExcludedFor, isExcludedFor, decide_eq_decide]
    exact Tag.mem_languages.trans (hsame.trans Tag.mem_languages.symm)
  todo l := by
    have hsame := hfeature.append (.of_lowered hown)
    have hdrives : (∃ t ∈ tags', Tag.Drives policy t l) ↔ ∃ t ∈ tags, Tag.Drives policy t l :=
      Tag.exists_iff_of_lowered (fun _ _ => Tag.Drives.congr) hown
    rw [Bool.eq_iff_iff, isTodoFor_ofTags, isTodoFor_ofTags, Tag.LeaveTodo, Tag.LeaveTodo,
      hsame "_expected" (by simp) l, hsame "_not_needed" (by simp) l, hdrives]

end Scenario

-- ---------------------------------------------------------------------------
-- Reading two texts
-- ---------------------------------------------------------------------------

/-- Two lists of tags differ in case only. -/
def Tag.SameLowered (tags tags' : List String) : Prop := lowered tags' = lowered tags

theorem Tag.SameLowered.append {tags tags' more more' : List String}
    (h : SameLowered tags tags') (hmore : SameLowered more more') :
    SameLowered (tags ++ more) (tags' ++ more') := by
  rw [SameLowered, lowered, List.map_append, lowered, List.map_append]
  exact congrArg₂ (· ++ ·) h hmore

theorem Tag.SameLowered.reverse {tags tags' : List String} (h : SameLowered tags tags') :
    SameLowered tags.reverse tags'.reverse := by
  rw [SameLowered, lowered, List.map_reverse, lowered, List.map_reverse]
  exact congrArg List.reverse h

/-- Two readings that have met scenarios with the same flags and stand under feature tags that
declare the same. How the tags that wait are related is left open. -/
structure Reading.Alike (policy : LanguagePolicy) (waiting : List String → List String → Prop)
    (r r' : Reading) : Prop where
  pending : waiting r.pending r'.pending
  title? : r'.title? = r.title?
  featureTags : Tag.SameDeclared policy r.featureTags r'.featureTags
  scenarios : List.Forall₂ Scenario.SameFlags r.scenarios r'.scenarios

namespace Reading.Alike

variable {policy : LanguagePolicy} {waiting : List String → List String → Prop} {r r' : Reading}

theorem refl (r : Reading) : Alike policy Tag.SameLowered r r where
  pending := rfl
  title? := rfl
  featureTags := .of_lowered rfl
  scenarios := List.forall₂_same.2 fun s _ => .refl s

/-- Tags that differ in case declare the same. -/
theorem weaken (h : Alike policy Tag.SameLowered r r') :
    Alike policy (Tag.SameDeclared policy) r r' :=
  ⟨.of_lowered h.pending, h.title?, h.featureTags, h.scenarios⟩

/-- Of the tags that wait for a feature line only what they declare counts. -/
theorem feature (h : Alike policy (Tag.SameDeclared policy) r r') (title : String) :
    Alike policy Tag.SameLowered (r.step policy (.feature title))
      (r'.step policy (.feature title)) where
  pending := rfl
  title? := rfl
  featureTags := h.pending.reverse
  scenarios := h.scenarios

theorem tags (h : Alike policy waiting r r') {ts ts' : List String}
    (hpending : waiting (ts.reverse ++ r.pending) (ts'.reverse ++ r'.pending)) :
    Alike policy waiting (r.step policy (.tags ts)) (r'.step policy (.tags ts')) :=
  ⟨hpending, h.title?, h.featureTags, h.scenarios⟩

theorem prose (h : Alike policy waiting r r') (hnil : waiting [] []) :
    Alike policy waiting (r.step policy .prose) (r'.step policy .prose) := by
  rw [step, step, h.title?]
  split
  · exact ⟨hnil, rfl, h.featureTags, h.scenarios⟩
  · exact h

theorem scenario (h : Alike policy Tag.SameLowered r r') (name : String) :
    Alike policy Tag.SameLowered (r.step policy (.scenario name))
      (r'.step policy (.scenario name)) := by
  rw [step, step, Scenario.SameFlags.any_name h.scenarios]
  split
  · exact ⟨rfl, h.title?, h.featureTags, h.scenarios⟩
  · exact ⟨rfl, h.title?, h.featureTags,
      .cons (Scenario.sameFlags_ofTags name h.featureTags h.pending.reverse) h.scenarios⟩

/-- Readings of one text that meet tags that declare the same. -/
theorem of_sameDeclared (r : Reading) {ts ts' : List String}
    (h : Tag.SameDeclared policy ts ts') :
    Alike policy (Tag.SameDeclared policy) (r.step policy (.tags ts))
      (r.step policy (.tags ts')) :=
  (refl r).weaken.tags (h.reverse.append (.of_lowered rfl))

/-- One line more keeps readings alike. -/
theorem line (h : Alike policy Tag.SameLowered r r') (line : Line) :
    Alike policy Tag.SameLowered (r.step policy line) (r'.step policy line) := by
  cases line with
  | tags ts => exact h.tags (.append rfl h.pending)
  | feature title => exact h.weaken.feature title
  | scenario name => exact h.scenario name
  | neutral => exact h
  | prose => exact h.prose rfl

/-- Where tags that wait declare the same, a line that opens no scenario keeps it so. -/
theorem lineAbove (h : Alike policy (Tag.SameDeclared policy) r r') {line : Line}
    (hline : ∀ name, line ≠ .scenario name) :
    Alike policy (Tag.SameDeclared policy) (r.step policy line) (r'.step policy line) := by
  cases line with
  | tags ts => exact h.tags (.append (.of_lowered rfl) h.pending)
  | feature title => exact (h.feature title).weaken
  | scenario name => exact absurd rfl (hline name)
  | neutral => exact h
  | prose => exact h.prose (.of_lowered rfl)

/-- Lines that both texts have keep readings alike. -/
theorem lines (h : Alike policy Tag.SameLowered r r') (ls : List Line) :
    Alike policy Tag.SameLowered (ls.foldl (step policy) r) (ls.foldl (step policy) r') := by
  induction ls generalizing r r' with
  | nil => exact h
  | cons l ls ih => exact ih (h.line l)

end Reading.Alike

-- ---------------------------------------------------------------------------
-- Edits of tags
-- ---------------------------------------------------------------------------

namespace Specification

/-- Of the lines that take the tags above them, a feature line comes first. -/
def LeadsToFeature (ls : List (List Char)) : Prop :=
  ∃ between f below, ls = between ++ f :: below ∧ IsFeatureLine f ∧
    ∀ l ∈ between, ¬ IsScenarioLine l

/-- A text is another with a tag line in another case, or with one more tag or tag line for a
feature line, of tags that declare nothing. -/
inductive Retags : List (List Char) → List (List Char) → Prop
  | recase (above below : List (List Char)) {l l' : List Char} (hline : IsTagLine l)
    (hcase : lowerAscii l' = lowerAscii l) : Retags (above ++ l :: below) (above ++ l' :: below)
  | addTag (above below : List (List Char)) (front back : List String) (tag : String)
    {l l' : List Char} (hline : IsTagLine l) (hline' : IsTagLine l')
    (hold : Line.tagsOf l = front ++ back) (hnew : Line.tagsOf l' = front ++ tag :: back)
    (htag : Tag.DeclaresNothing tag) (hbelow : LeadsToFeature below) :
    Retags (above ++ l :: below) (above ++ l' :: below)
  | addLine (above below : List (List Char)) {l : List Char} (hline : IsTagLine l)
    (htags : ∀ t ∈ Line.tagsOf l, Tag.DeclaresNothing t) (hbelow : LeadsToFeature below) :
    Retags (above ++ below) (above ++ l :: below)

end Specification

/-! ### Lines by their kind -/

section

open Specification

variable {l : List Char}

theorem Line.ofText_of_isTagLine (h : IsTagLine l) : Line.ofText l = .tags (Line.tagsOf l) := by
  have hkind := kind_ofText l
  generalize Line.ofText l = line at hkind
  cases hkind with
  | tags => rfl
  | feature _ hfeature => exact absurd hfeature h.not_isFeatureLine
  | scenario hscenario => exact absurd hscenario h.not_isScenarioLine
  | neutral _ _ htag => exact absurd h htag
  | prose hprose => exact absurd h hprose.2.1

theorem Line.exists_ofText_of_isFeatureLine (h : IsFeatureLine l) :
    ∃ title, Line.ofText l = .feature title := by
  have hkind := kind_ofText l
  generalize Line.ofText l = line at hkind
  cases hkind with
  | tags htag => exact absurd h htag.not_isFeatureLine
  | feature title => exact ⟨title, rfl⟩
  | scenario hscenario => exact absurd hscenario h.not_isScenarioLine
  | neutral hfeature => exact absurd h hfeature
  | prose hprose => exact absurd h hprose.2.2.1

theorem Line.ofText_ne_scenario (h : ¬ IsScenarioLine l) (name : String) :
    Line.ofText l ≠ .scenario name := by
  have hkind := kind_ofText l
  intro heq
  rw [heq] at hkind
  cases hkind with
  | scenario hscenario => exact h hscenario

theorem isTagLine_of_lowerAscii_eq {l' : List Char} (h : IsTagLine l)
    (hcase : lowerAscii l' = lowerAscii l) : IsTagLine l' := by
  rw [IsTagLine, ← startsWith_iff] at h ⊢
  rw [← Text.startsWith_at_lowerAscii, hcase, Text.startsWith_at_lowerAscii, h]

end

/-! ### Both texts line by line -/

namespace Reading

variable {policy : LanguagePolicy} {r r' : Reading}

/-- Past a feature line that comes first among the lines that take tags, readings are alike. -/
theorem Alike.linesToFeature (h : Alike policy (Tag.SameDeclared policy) r r')
    {ls : List (List Char)} (hls : LeadsToFeature ls) :
    Alike policy Tag.SameLowered ((ls.map Line.ofText).foldl (step policy) r)
      ((ls.map Line.ofText).foldl (step policy) r') := by
  obtain ⟨between, f, below, rfl, hf, hbetween⟩ := hls
  induction between generalizing r r' with
  | nil =>
    obtain ⟨title, htitle⟩ := Line.exists_ofText_of_isFeatureLine hf
    rw [List.nil_append, List.map_cons, List.foldl_cons, List.foldl_cons, htitle]
    exact (h.feature title).lines _
  | cons l between ih =>
    obtain ⟨hl, hbetween⟩ := List.forall_mem_cons.1 hbetween
    exact ih (h.lineAbove (Line.ofText_ne_scenario hl)) hbetween

theorem alike_of_retags (policy : LanguagePolicy) {ls ls' : List (List Char)}
    (h : Retags ls ls') :
    Alike policy Tag.SameLowered (ofLines policy (ls.map Line.ofText))
      (ofLines policy (ls'.map Line.ofText)) := by
  unfold ofLines
  cases h with
  | @recase above below l l' hline hcase =>
    have hline' : IsTagLine l' := isTagLine_of_lowerAscii_eq hline hcase
    have hsame : Tag.SameLowered (Line.tagsOf l) (Line.tagsOf l') := by
      rw [Tag.SameLowered, Tag.lowered_tagsOf, Tag.lowered_tagsOf, hcase]
    simp only [List.map_append, List.map_cons, List.foldl_append, List.foldl_cons,
      Line.ofText_of_isTagLine hline, Line.ofText_of_isTagLine hline']
    exact ((Alike.refl _).tags (hsame.reverse.append rfl)).lines _
  | @addTag above below front back tag l l' hline hline' hold hnew htag hbelow =>
    have hmore : Tag.SameDeclared policy (front ++ ([] ++ back)) (front ++ ([tag] ++ back)) :=
      .append (.of_lowered rfl)
        (.append (.of_declaresNothing (List.forall_mem_singleton.2 htag)) (.of_lowered rfl))
    simp only [List.map_append, List.map_cons, List.foldl_append, List.foldl_cons,
      Line.ofText_of_isTagLine hline, Line.ofText_of_isTagLine hline', hold, hnew]
    exact (Alike.of_sameDeclared _ hmore).linesToFeature hbelow
  | @addLine above below l hline htags hbelow =>
    have hmore : Tag.SameDeclared policy [] (Line.tagsOf l) := .of_declaresNothing htags
    simp only [List.map_append, List.map_cons, List.foldl_append, List.foldl_cons,
      Line.ofText_of_isTagLine hline]
    exact (Alike.of_sameDeclared _ hmore).linesToFeature hbelow

/-- Any number of edits of tags leave the flags of all scenarios as they are. -/
theorem scenarios_of_retags (policy : LanguagePolicy) {ls ls' : List (List Char)}
    (h : Relation.ReflTransGen Retags ls ls') :
    List.Forall₂ Scenario.SameFlags (ofLines policy (ls.map Line.ofText)).scenarios
      (ofLines policy (ls'.map Line.ofText)).scenarios := by
  induction h with
  | refl => exact List.forall₂_same.2 fun s _ => .refl s
  | tail _ hedit ih =>
    exact Scenario.SameFlags.forall₂_trans ih (alike_of_retags policy hedit).scenarios

end Reading

/-- A text whose tags expect a scenario for one language and drive it for two others. -/
def taggedLogin : String :=
  "@go @python_int\nFeature: Login\n  @Core_expected @Java_E2E @odbc\n  Scenario: Log in\n"

/-- The same with other case and one more driver tag on the feature line. -/
def retaggedLogin : String :=
  "@GO @odbc_int @python_int\nFeature: Login\n  @core_EXPECTED @java_e2e @odbc\n  Scenario: Log in\n"

theorem retags_taggedLogin :
    Relation.ReflTransGen Retags (trimmedLines taggedLogin.toList)
      (trimmedLines retaggedLogin.toList) := by
  let feature := "Feature: Login".toList
  let own := "@Core_expected @Java_E2E @odbc".toList
  let own' := "@core_EXPECTED @java_e2e @odbc".toList
  let scenario := "Scenario: Log in".toList
  have htext : trimmedLines taggedLogin.toList =
      ["@go @python_int".toList, feature, own, scenario] := by decide +kernel
  have htext' : trimmedLines retaggedLogin.toList =
      ["@GO @odbc_int @python_int".toList, feature, own', scenario] := by decide +kernel
  rw [htext, htext']
  have hfeature : LeadsToFeature [feature, own', scenario] :=
    ⟨[], feature, [own', scenario], rfl, by decide, by simp⟩
  have hown : Retags ["@go @python_int".toList, feature, own, scenario]
      ["@go @python_int".toList, feature, own', scenario] :=
    .recase ["@go @python_int".toList, feature] [scenario] (by decide) (by decide)
  have hcase : Retags ["@go @python_int".toList, feature, own', scenario]
      ["@GO @python_int".toList, feature, own', scenario] :=
    .recase [] [feature, own', scenario] (by decide) (by decide)
  have htag : Retags ["@GO @python_int".toList, feature, own', scenario]
      ["@GO @odbc_int @python_int".toList, feature, own', scenario] :=
    .addTag [] [feature, own', scenario] ["@GO"] ["@python_int"] "@odbc_int" (by decide)
      (by decide) (by decide) (by decide) (by decide) hfeature
  exact .head hown (.head hcase (.single htag))

end SpecCoverage
