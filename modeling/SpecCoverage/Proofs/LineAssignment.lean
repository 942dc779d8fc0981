-- SUMMARY: Which lines scenarios get: each in turn takes the first declaration that fits it and that none before it has taken.
import SpecCoverage.Proofs.FullRank
import SpecCoverage.Proofs.ScannedLines

/-!
# Lines in turn

A scan is gone through once, and each declaration goes to one scenario at most. The outcome is that
of the scenarios choosing one after the other, in the order of their list: each takes the first
declaration that fits it among those that the scenarios before it have left (`leftBy`). So a
scenario whose first declaration fits one before it as well may get a later line or none.
-/
namespace SpecCoverage.Declaration

/-- Does the name of a declaration stand for a scenario? -/
def fits (scenario : String) (d : Declaration) : Bool :=
  Spelling.fits d.declared.name scenario

/-- The declarations that are left when scenarios, one after the other, take the first that fits. -/
def leftBy (scenarios : List String) (ds : List Declaration) : List Declaration :=
  scenarios.foldl (fun ds s => ds.eraseP (fits s)) ds

/-- Has each scenario the line of the first declaration that fits it, and none without one? -/
def MatchesFirst (scenarios : List String) (text : String) : Prop :=
  ∀ s ∈ scenarios, (linesFor scenarios text).get? s = ((scan text).find? (fits s)).map (·.line)

/-- Do scenarios leave to those behind them, on the line of the first declaration that fits, one
that fits? -/
def LeavesFirst (scenarios : List String) (text : String) : Prop :=
  ∀ before s after, scenarios = before ++ s :: after →
    ∀ d, (scan text).find? (fits s) = some d →
      ∃ e ∈ leftBy before (scan text), fits s e = true ∧ e.line = d.line

/-- Scenarios have the lines that they take in turn, and nothing else has a line. -/
structure InTurn (scenarios : List String) (text : String) : Prop where
  line : ∀ before s after, scenarios = before ++ s :: after →
    (linesFor scenarios text).get? s =
      ((leftBy before (scan text)).find? (fits s)).map (·.line)
  others : ∀ s, s ∉ scenarios → (linesFor scenarios text).get? s = none

/-! ## One declaration -/

/-- What scenarios are sought by. -/
def soughtOf (scenarios : List String) : List Sought :=
  scenarios.map fun s => ⟨s, Spelling.reducedForms s⟩

variable {s : String} {ss : List String} {m m' : SortedMap String Nat} {d : Declaration}

/-- The first scenario of the list takes a declaration that fits it if it has no line yet. -/
theorem assign_cons (s : String) (ss : List String) (m : SortedMap String Nat) (d : Declaration) :
    assign (soughtOf (s :: ss)) m d =
      if (fits s d && !m.contains s) = true then m.insert s d.line
      else assign (soughtOf ss) m d := by
  have htakes : Sought.takes m (Spelling.reduce d.declared.name.toList)
      ⟨s, Spelling.reducedForms s⟩ = (fits s d && !m.contains s) :=
    Sought.takes_reducedForms m d.declared.name s
  rw [assign, soughtOf, List.map_cons, List.find?_cons, htakes]
  cases fits s d && !m.contains s <;> rfl

/-- Do two maps differ at one key at most? -/
def AgreeOff (s : String) (m m' : SortedMap String Nat) : Prop :=
  ∀ k, k ≠ s → m.get? k = m'.get? k

theorem agreeOff_insert (s : String) (m : SortedMap String Nat) (n : Nat) :
    AgreeOff s (m.insert s n) m := by
  intro k hk
  rw [SortedMap.get?_insert, if_neg hk]

/-- Scenarios do not look at the lines of others. -/
theorem AgreeOff.assign (h : AgreeOff s m m') (hs : s ∉ ss) (d : Declaration) :
    AgreeOff s (assign (soughtOf ss) m d) (assign (soughtOf ss) m' d) := by
  induction ss with
  | nil => exact h
  | cons t ts ih =>
    obtain ⟨hne, hts⟩ := not_or.1 (List.mem_cons.not.1 hs)
    have hcontains : m.contains t = m'.contains t := by
      rw [SortedMap.contains, SortedMap.contains, h t (Ne.symm hne)]
    rw [assign_cons, assign_cons, hcontains]
    split
    · intro k hk
      rw [SortedMap.get?_insert, SortedMap.get?_insert, h k hk]
    · exact ih hts

theorem get?_assign_of_notMem (hs : s ∉ ss) (m : SortedMap String Nat) (d : Declaration) :
    (assign (soughtOf ss) m d).get? s = m.get? s := by
  induction ss with
  | nil => rfl
  | cons t ts ih =>
    obtain ⟨hne, hts⟩ := not_or.1 (List.mem_cons.not.1 hs)
    rw [assign_cons]
    split
    · rw [SortedMap.get?_insert, if_neg hne]
    · exact ih hts

/-! ## All declarations -/

/-- The lines that scenarios have after some declarations. -/
def given (ss : List String) (m : SortedMap String Nat) (ds : List Declaration) :
    SortedMap String Nat :=
  ds.foldl (assign (soughtOf ss)) m

theorem given_cons (ss : List String) (m : SortedMap String Nat) (d : Declaration)
    (ds : List Declaration) : given ss m (d :: ds) = given ss (assign (soughtOf ss) m d) ds := rfl

theorem AgreeOff.given (h : AgreeOff s m m') (hs : s ∉ ss) (ds : List Declaration) :
    AgreeOff s (given ss m ds) (given ss m' ds) := by
  induction ds generalizing m m' with
  | nil => exact h
  | cons d ds ih => exact ih (h.assign hs d)

theorem get?_given_of_notMem (hs : s ∉ ss) (m : SortedMap String Nat) (ds : List Declaration) :
    (given ss m ds).get? s = m.get? s := by
  induction ds generalizing m with
  | nil => rfl
  | cons d ds ih => rw [given_cons, ih, get?_assign_of_notMem hs]

/-- A scenario that has its line is passed over. -/
theorem given_of_contains (hs : s ∉ ss) (h : m.contains s = true) (ds : List Declaration) :
    given (s :: ss) m ds = given ss m ds := by
  induction ds generalizing m with
  | nil => rfl
  | cons d ds ih =>
    have hpass : assign (soughtOf (s :: ss)) m d = assign (soughtOf ss) m d := by
      rw [assign_cons, h, Bool.not_true, Bool.and_false, if_neg Bool.false_ne_true]
    have hkept : (assign (soughtOf ss) m d).contains s = true := by
      rw [SortedMap.contains, get?_assign_of_notMem hs]
      exact h
    rw [given_cons, given_cons, hpass, ih hkept]

/-- The first scenario takes the first declaration that fits it. The others share what is left. -/
theorem given_cons_scenario (hs : s ∉ ss) (hm : m.get? s = none) (ds : List Declaration) :
    (given (s :: ss) m ds).get? s = (ds.find? (fits s)).map (·.line) ∧
      AgreeOff s (given (s :: ss) m ds) (given ss m (ds.eraseP (fits s))) := by
  induction ds generalizing m with
  | nil => exact ⟨hm, fun _ _ => rfl⟩
  | cons d ds ih =>
    have hfree : m.contains s = false := by rw [SortedMap.contains, hm]; rfl
    rw [given_cons, assign_cons, hfree, Bool.not_false, Bool.and_true, List.find?_cons,
      List.eraseP_cons]
    cases hfits : fits s d with
    | true =>
      have hown : (m.insert s d.line).get? s = some d.line := by
        rw [SortedMap.get?_insert, if_pos rfl]
      have htaken : (m.insert s d.line).contains s = true := by
        rw [SortedMap.contains, hown]; rfl
      rw [if_pos rfl, given_of_contains hs htaken]
      refine ⟨by rw [get?_given_of_notMem hs, hown]; rfl, ?_⟩
      exact (agreeOff_insert s m d.line).given hs ds
    | false =>
      rw [if_neg Bool.false_ne_true]
      exact ih (by rw [get?_assign_of_notMem hs, hm])

/-- A scenario takes the first declaration that fits it of those that the ones before it leave. -/
theorem get?_given {before after : List String} (h : (before ++ s :: after).Nodup)
    (ds : List Declaration) :
    (given (before ++ s :: after) ∅ ds).get? s =
      ((leftBy before ds).find? (fits s)).map (·.line) := by
  induction before generalizing ds with
  | nil => exact (given_cons_scenario (List.nodup_cons.1 h).1 rfl ds).1
  | cons b before ih =>
    rw [List.cons_append] at h ⊢
    obtain ⟨hb, hrest⟩ := List.nodup_cons.1 h
    have hne : s ≠ b := by
      rintro rfl
      exact hb (List.mem_append_right before List.mem_cons_self)
    rw [(given_cons_scenario hb (SortedMap.get?_empty b) ds).2 s hne, ih hrest]
    rfl

/-! ## First declarations -/

theorem linesFor_eq (scenarios : List String) (text : String) :
    linesFor scenarios text = given scenarios ∅ (scan text) := rfl

theorem leftBy_sublist (scenarios : List String) (ds : List Declaration) :
    (leftBy scenarios ds).Sublist ds := by
  induction scenarios generalizing ds with
  | nil => exact List.Sublist.refl ds
  | cons s scenarios ih => exact (ih _).trans List.eraseP_sublist

/-- Scenarios leave a declaration that fits none of them. -/
theorem mem_leftBy {scenarios : List String} {ds : List Declaration} (hd : d ∈ ds)
    (hfits : ∀ s ∈ scenarios, fits s d = false) : d ∈ leftBy scenarios ds := by
  induction scenarios generalizing ds with
  | nil => exact hd
  | cons s scenarios ih =>
    obtain ⟨hs, hscenarios⟩ := List.forall_mem_cons.1 hfits
    refine ih ?_ hscenarios
    exact (List.mem_eraseP_of_neg (by rw [hs]; exact Bool.false_ne_true)).2 hd

/-- In the order of lines no declaration that fits stands above the first one. -/
theorem line_le_of_find? {p : Declaration → Bool} {ds : List Declaration} {e : Declaration}
    (hds : ds.Pairwise fun d e => d.line ≤ e.line) (hd : ds.find? p = some d) (he : e ∈ ds)
    (hpe : p e = true) : d.line ≤ e.line := by
  obtain ⟨-, before, after, rfl, hbefore⟩ := List.find?_eq_some_iff_append.1 hd
  rcases List.mem_append.1 he with he | he
  · have hnot := hbefore e he
    rw [hpe] at hnot
    cases hnot
  · rcases List.mem_cons.1 he with rfl | he
    · exact Nat.le_refl _
    · exact (List.pairwise_cons.1 (List.pairwise_append.1 hds).2.1).1 e he

theorem scan_lines (text : String) : (scan text).Pairwise fun d e => d.line ≤ e.line :=
  (scan_increasing text).imp Before.line_le

/-- What is left has the same first line for a scenario just when it has that line at all. -/
theorem map_line_find?_eq_iff {ds left : List Declaration} {p : Declaration → Bool}
    (hds : ds.Pairwise fun d e => d.line ≤ e.line) (hleft : left.Sublist ds) :
    (left.find? p).map (·.line) = (ds.find? p).map (·.line) ↔
      ∀ d, ds.find? p = some d → ∃ e ∈ left, p e = true ∧ e.line = d.line := by
  constructor
  · intro h d hd
    rw [hd, Option.map_some, Option.map_eq_some_iff] at h
    obtain ⟨e, he, hline⟩ := h
    exact ⟨e, List.mem_of_find?_eq_some he, List.find?_some he, hline⟩
  · intro h
    cases hd : ds.find? p with
    | none =>
      have hnone : left.find? p = none :=
        List.find?_eq_none.2 fun e he => List.find?_eq_none.1 hd e (hleft.subset he)
      rw [hnone]
    | some d =>
      obtain ⟨e, he, hpe, hline⟩ := h d hd
      have hsome : (left.find? p).isSome := List.find?_isSome.2 ⟨e, he, hpe⟩
      obtain ⟨first, hfirst⟩ := Option.isSome_iff_exists.1 hsome
      have hlow : d.line ≤ first.line := line_le_of_find? hds hd
        (hleft.subset (List.mem_of_find?_eq_some hfirst)) (List.find?_some hfirst)
      have hhigh : first.line ≤ e.line := line_le_of_find? (hds.sublist hleft) hfirst he hpe
      rw [hfirst, Option.map_some, Option.map_some, Nat.le_antisymm (hhigh.trans hline.le) hlow]

variable {scenarios : List String} {text : String}

theorem inTurn_linesFor (h : scenarios.Nodup) (text : String) : InTurn scenarios text where
  line := by
    rintro before s after rfl
    rw [linesFor_eq]
    exact get?_given h (scan text)
  others := by
    intro s hs
    rw [linesFor_eq, get?_given_of_notMem hs, SortedMap.get?_empty]

theorem InTurn.matchesFirst_iff (h : InTurn scenarios text) :
    MatchesFirst scenarios text ↔ LeavesFirst scenarios text := by
  constructor
  · rintro hfirst before s after rfl
    have hs := hfirst s (List.mem_append_right before List.mem_cons_self)
    rw [h.line before s after rfl] at hs
    exact (map_line_find?_eq_iff (scan_lines text) (leftBy_sublist before _)).1 hs
  · intro hleaves s hs
    obtain ⟨before, after, rfl⟩ := List.append_of_mem hs
    rw [h.line before s after rfl]
    exact (map_line_find?_eq_iff (scan_lines text) (leftBy_sublist before _)).2
      (hleaves before s after rfl)

/-- Scenarios that no declaration fits at once take nothing from each other. -/
theorem leavesFirst_of_apart (hscenarios : scenarios.Nodup)
    (hapart : ∀ d ∈ scan text, ∀ s ∈ scenarios, ∀ t ∈ scenarios,
      fits s d = true → fits t d = true → s = t) : LeavesFirst scenarios text := by
  rintro before s after rfl d hd
  have hmem := List.mem_of_find?_eq_some hd
  have hfits : fits s d = true := List.find?_some hd
  refine ⟨d, mem_leftBy hmem fun t ht => ?_, hfits, rfl⟩
  refine Bool.eq_false_iff.2 fun hfitsToo => ?_
  have hst : t = s := hapart d hmem t (List.mem_append_left _ ht) s
    (List.mem_append_right before List.mem_cons_self) hfitsToo hfits
  exact List.disjoint_of_nodup_append hscenarios ht (hst ▸ List.mem_cons_self)

/-- Pairwise distinct scenarios take their lines in turn, in the order of their list. So each has
the line of the first declaration that fits it just when those before it leave one on that line, as
they do when no declaration fits two of them. -/
theorem linesFor_inTurn (scenarios : List String) (h : scenarios.Nodup) (text : String) :
    InTurn scenarios text ∧ (MatchesFirst scenarios text ↔ LeavesFirst scenarios text) ∧
      ((∀ d ∈ scan text, ∀ s ∈ scenarios, ∀ t ∈ scenarios,
        fits s d = true → fits t d = true → s = t) → MatchesFirst scenarios text) := by
  have hturn : InTurn scenarios text := inTurn_linesFor h text
  refine ⟨hturn, hturn.matchesFirst_iff, fun hapart => ?_⟩
  exact hturn.matchesFirst_iff.2 (leavesFirst_of_apart h hapart)

/-- Of two tests for two scenarios alike each scenario takes one, though both fit it. -/
example : (linesFor ["Select one", "select one"]
    "def test_select_one():\ndef test_select_one():\n").entries =
      [("Select one", 1), ("select one", 2)] := by
  decide +kernel

/-- Two tests, each for a scenario of its own. -/
def selects : String := "def test_select_many():\ndef test_select_one():\n"

theorem linesFor_inTurn_selects :
    ["Select one", "Select many"].Nodup ∧ InTurn ["Select one", "Select many"] selects ∧
      MatchesFirst ["Select one", "Select many"] selects := by
  have hdistinct : ["Select one", "Select many"].Nodup := by decide
  have hapart : ∀ d ∈ scan selects, ∀ s ∈ ["Select one", "Select many"],
      ∀ t ∈ ["Select one", "Select many"], fits s d = true → fits t d = true → s = t := by
    decide +kernel
  exact ⟨hdistinct, (linesFor_inTurn _ hdistinct selects).1,
    (linesFor_inTurn _ hdistinct selects).2.2 hapart⟩

/-- Of two scenarios whose names differ in case the one that stands first takes the only test. -/
theorem not_matchesFirst_selectOne :
    ["Select one", "select one"].Nodup ∧
      (linesFor ["Select one", "select one"] "def test_select_one():\n").get? "select one" = none ∧
      (linesFor ["select one", "Select one"] "def test_select_one():\n").get? "select one" =
        some 1 ∧
      ¬ MatchesFirst ["Select one", "select one"] "def test_select_one():\n" := by
  refine ⟨by decide, by decide +kernel, by decide +kernel, ?_⟩
  unfold MatchesFirst
  decide +kernel

end SpecCoverage.Declaration
