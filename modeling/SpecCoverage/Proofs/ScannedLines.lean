-- SUMMARY: What a scan lists, line by line: which names a line declares in which style, said of the line and those above it.
import Mathlib.Data.List.Range
import SpecCoverage.Proofs.DeclaredNames
import SpecCoverage.Proofs.Order

/-!
# Declarations line by line

A scan carries what the lines above mean, cut to the reach of attributes, and what it has found so
far. Neither shows in what it lists: the declarations on a line are those of the line below all
lines above it (`listing`), and so whether a declaration is listed can be said of numbered lines
alone (`mem_scan_iff`). Where the text has no line, lines count as blank.
-/
namespace SpecCoverage.Declaration

open Text

/-! ## Styles -/

/-- The name that a line declares in a style. -/
def declaredAs? (above : List Standing) (line : List Char) : DeclarationStyle → Option (List Char)
  | .testCase => Pattern.find? Pattern.testCase line
  | .annotated => if annotatedWithin annotationReach above then method? line else none
  | .attribute =>
    if Pattern.isAttribute line || (above.take attributeReach).any (·.hasAttribute) then
      Pattern.find? Pattern.function line
    else none
  | .convention => Pattern.find? Pattern.testFunction line
  | .voidFunction => Pattern.find? Pattern.voidFunction line

theorem mem_declaredOn {above : List Standing} {line : List Char} {d : Declared} :
    d ∈ declaredOn above line ↔ declaredAs? above line d.style = some d.name.toList := by
  have hmem (style : DeclarationStyle) (name? : Option (List Char)) :
      d ∈ (name?.map fun n => (⟨String.ofList n, style⟩ : Declared)).toList ↔
        d.style = style ∧ name? = some d.name.toList := by
    rw [Option.mem_toList, Option.map_eq_some_iff]
    constructor
    · rintro ⟨name, rfl, rfl⟩
      exact ⟨rfl, by rw [String.toList_ofList]⟩
    · rintro ⟨rfl, hname⟩
      exact ⟨_, hname, by rw [String.ofList_toList]⟩
  rw [declaredOn, SortedSet.mem_ofList]
  simp only [List.mem_append, hmem]
  cases d with
  | mk name style => cases style <;> simp [declaredAs?]

theorem annotatedWithin_take {n m : Nat} (h : n ≤ m) (above : List Standing) :
    annotatedWithin n (above.take m) = annotatedWithin n above := by
  induction n generalizing m above with
  | zero => simp [annotatedWithin]
  | succ n ih =>
    obtain ⟨m, rfl⟩ := Nat.exists_eq_add_of_le' (Nat.lt_of_lt_of_le n.succ_pos h)
    cases above with
    | nil => rfl
    | cons line above =>
      rw [List.take_succ_cons, annotatedWithin, annotatedWithin, ih (Nat.le_of_succ_le_succ h)]

/-- Lines beyond the reach of attributes do not matter. -/
theorem declaredOn_take (above : List Standing) (line : List Char) :
    declaredOn (above.take attributeReach) line = declaredOn above line := by
  rw [declaredOn, declaredOn, annotatedWithin_take (by decide), List.take_take, Nat.min_self]

/-! ## The list -/

/-- The declarations on lines from line `n` on, below lines that are given nearest first. -/
def listing (above : List (List Char)) (n : Nat) : List (List Char) → List Declaration
  | [] => []
  | line :: rest =>
    ((declaredOn (above.map .ofLine) line).toList.map fun d => ⟨n, d⟩) ++
      listing (line :: above) (n + 1) rest

theorem scanFrom_eq (found : List Declaration) (above : List (List Char)) (n : Nat)
    (ls : List (List Char)) :
    scanFrom found ((above.map .ofLine).take attributeReach) n ls =
      found.reverse ++ listing above n ls := by
  induction ls generalizing found above n with
  | nil => simp [scanFrom, listing]
  | cons line rest ih =>
    have hwindow : (Standing.ofLine line :: (above.map .ofLine).take attributeReach).take
        attributeReach = ((line :: above).map .ofLine).take attributeReach := by
      simp [attributeReach, List.take_take]
    rw [scanFrom, hwindow, ih, listing, declaredOn_take]
    simp

theorem scan_eq (text : String) : scan text = listing [] 1 (trimmedLines text.toList) :=
  scanFrom_eq [] [] 1 _

theorem mem_listing {above ls : List (List Char)} {n : Nat} {d : Declaration} :
    d ∈ listing above n ls ↔ ∃ i line, ls[i]? = some line ∧ d.line = n + i ∧
      d.declared ∈ declaredOn (((ls.take i).reverse ++ above).map .ofLine) line := by
  induction ls generalizing above n with
  | nil => simp [listing]
  | cons head rest ih =>
    rw [listing, List.mem_append, ih, List.mem_map]
    constructor
    · rintro (⟨declared, hdeclared, rfl⟩ | ⟨i, line, hline, hnumber, hdeclared⟩)
      · exact ⟨0, head, rfl, rfl, hdeclared⟩
      · refine ⟨i + 1, line, by simpa using hline, by omega, ?_⟩
        simpa using hdeclared
    · rintro ⟨i, line, hline, hnumber, hdeclared⟩
      cases i with
      | zero =>
        obtain rfl := Option.some.inj hline
        exact .inl ⟨d.declared, hdeclared, by rw [← hnumber.trans (Nat.add_zero n)]⟩
      | succ i =>
        refine .inr ⟨i, line, by simpa using hline, by omega, ?_⟩
        simpa using hdeclared

/-! ## The order of the list -/

/-- By line, then by name, then by style. -/
def Before (d e : Declaration) : Prop :=
  d.line < e.line ∨ d.line = e.line ∧ (d.declared.name < e.declared.name ∨
    d.declared.name = e.declared.name ∧ d.declared.style.rank < e.declared.style.rank)

theorem Before.line_le {d e : Declaration} (h : Before d e) : d.line ≤ e.line :=
  h.elim Nat.le_of_lt fun h => h.1.le

theorem before_of_compare {n : Nat} {a b : Declared} (h : compare a b = .lt) :
    Before ⟨n, a⟩ ⟨n, b⟩ := by
  have hthen : (compare a.name b.name).then (compare a.style.rank b.style.rank) = .lt := h
  refine .inr ⟨rfl, (Ordering.then_eq_lt.1 hthen).imp compareOfLessAndEq_eq_lt.1 ?_⟩
  exact And.imp Std.LawfulEqCmp.eq_of_compare Nat.compare_eq_lt.1

theorem listing_increasing (above : List (List Char)) (n : Nat) (ls : List (List Char)) :
    (listing above n ls).Pairwise Before := by
  induction ls generalizing above n with
  | nil => exact .nil
  | cons line rest ih =>
    refine List.pairwise_append.2 ⟨?_, ih (line :: above) (n + 1), ?_⟩
    · exact List.pairwise_map.2 ((declaredOn _ line).sorted.imp before_of_compare)
    · intro d hd e he
      obtain ⟨_, -, rfl⟩ := List.mem_map.1 hd
      obtain ⟨i, -, -, hnumber, -⟩ := mem_listing.1 he
      exact .inl (by dsimp only; omega)

theorem scan_increasing (text : String) : (scan text).Pairwise Before := by
  rw [scan_eq]
  exact listing_increasing _ _ _

/-! ## Numbered lines -/

/-- The trimmed line of a number, blank where the text has none. Lines count from one. -/
def lineAt (text : String) (n : Nat) : List Char :=
  ([] :: trimmedLines text.toList)[n]?.getD []

@[simp] theorem lineAt_zero (text : String) : lineAt text 0 = [] := rfl

theorem lineAt_succ (text : String) (i : Nat) :
    lineAt text (i + 1) = (trimmedLines text.toList)[i]?.getD [] := rfl

/-- A line with anything on it is one of the text. -/
theorem le_of_lineAt_ne_nil {text : String} {n : Nat} (h : lineAt text n ≠ []) :
    1 ≤ n ∧ n ≤ (trimmedLines text.toList).length := by
  cases n with
  | zero => exact absurd rfl h
  | succ i =>
    refine ⟨i.succ_pos, Nat.lt_of_not_le fun hle => h ?_⟩
    rw [lineAt_succ, List.getElem?_eq_none hle, Option.getD_none]

/-- The lines above a line, nearest first, are those of the numbers below its own. -/
theorem getD_reverse_take (text : String) {i : Nat} (hi : i ≤ (trimmedLines text.toList).length)
    (k : Nat) : ((trimmedLines text.toList).take i).reverse[k]?.getD [] = lineAt text (i - k) := by
  by_cases hk : k < i
  · obtain ⟨m, rfl⟩ := Nat.exists_eq_add_of_lt hk
    have hlength : ((trimmedLines text.toList).take (k + m + 1)).length = k + m + 1 := by
      rw [List.length_take]
      omega
    have hindex : k + m + 1 - 1 - k = m := by omega
    have hnumber : k + m + 1 - k = m + 1 := by omega
    rw [List.getElem?_reverse (by omega), hlength, hindex, hnumber, lineAt_succ,
      List.getElem?_take_of_lt (by omega)]
  · have hzero : i - k = 0 := by omega
    rw [List.getElem?_eq_none (by rw [List.length_reverse, List.length_take]; omega), hzero]
    rfl

/-- An annotation up to `n` lines above, without a method in between. -/
theorem annotatedWithin_iff {n : Nat} {above : List (List Char)} :
    annotatedWithin n (above.map .ofLine) = true ↔
      ∃ k < n, Pattern.isAnnotation (above[k]?.getD []) = true ∧
        ∀ j < k, method? (above[j]?.getD []) = none := by
  induction n generalizing above with
  | zero => simp [annotatedWithin]
  | succ n ih =>
    have hblank : Pattern.isAnnotation [] = false := by decide
    cases above with
    | nil => simp [annotatedWithin, hblank]
    | cons line above =>
      have hstep (k : Nat) : (∀ j < k + 1, method? ((line :: above)[j]?.getD []) = none) ↔
          method? line = none ∧ ∀ j < k, method? (above[j]?.getD []) = none :=
        Nat.forall_lt_succ_left
      rw [List.map_cons, annotatedWithin, Bool.or_eq_true, Bool.and_eq_true, ih,
        Nat.exists_lt_succ_left]
      refine or_congr ?_ ?_
      · exact (and_iff_left fun j hj => absurd hj j.not_lt_zero).symm
      · have hmethod : (!(Standing.ofLine line).hasMethod) = true ↔ method? line = none := by
          rw [Standing.ofLine, Bool.not_eq_true', Option.isSome_eq_false_iff,
            Option.isNone_iff_eq_none]
        simp only [hmethod, hstep]
        constructor
        · rintro ⟨hnone, k, hk, hannotation, hbetween⟩
          exact ⟨k, hk, hannotation, hnone, hbetween⟩
        · rintro ⟨k, hk, hannotation, hnone, hbetween⟩
          exact ⟨hnone, k, hk, hannotation, hbetween⟩

theorem any_hasAttribute_iff {n : Nat} {above : List (List Char)} :
    ((above.map Standing.ofLine).take n).any (·.hasAttribute) = true ↔
      ∃ k < n, Pattern.isAttribute (above[k]?.getD []) = true := by
  have hblank : Pattern.isAttribute [] = false := by decide
  induction n generalizing above with
  | zero => simp
  | succ n ih =>
    cases above with
    | nil => simp [hblank]
    | cons line above =>
      rw [List.map_cons, List.take_succ_cons, List.any_cons, Bool.or_eq_true,
        Nat.exists_lt_succ_left]
      exact or_congr Iff.rfl ih

/-- The line of the first method behind a line, at most three lines on. -/
def methodLine? (text : String) (m : Nat) : Option Nat :=
  (List.range' (m + 1) annotationReach).find? fun n => (method? (lineAt text n)).isSome

/-- Does the search behind an annotation lead to a line? -/
def AnnotatedAt (text : String) (n : Nat) : Prop :=
  ∃ m, Pattern.OpensWithAnnotation (lineAt text m) ∧ methodLine? text m = some n

/-- Does a test attribute stand on a line or up to five lines above it? -/
def AttributedAt (text : String) (n : Nat) : Prop :=
  ∃ k ≤ attributeReach, ∃ mark ∈ Pattern.attributeMarks, mark <:+: lineAt text (n - k)

/-- Does a line declare a name in a style? -/
def NamedAt (text : String) (n : Nat) (name : List Char) : DeclarationStyle → Prop
  | .testCase => Pattern.find? Pattern.testCase (lineAt text n) = some name
  | .annotated => AnnotatedAt text n ∧ method? (lineAt text n) = some name
  | .attribute => AttributedAt text n ∧ Pattern.find? Pattern.function (lineAt text n) = some name
  | .convention => Pattern.find? Pattern.testFunction (lineAt text n) = some name
  | .voidFunction => Pattern.find? Pattern.voidFunction (lineAt text n) = some name

section

variable {text : String} {n : Nat} {name : List Char} {style : DeclarationStyle}

/-- A blank line declares nothing. -/
theorem NamedAt.lineAt_ne_nil (h : NamedAt text n name style) : lineAt text n ≠ [] := by
  intro hblank
  cases style <;> simp only [NamedAt, hblank] at h
  · cases h
  · exact (method?_eq_some_iff.1 h.2).1 rfl
  · cases h.2
  · cases h
  · cases h

/-- The annotation whose search leads to a line is found again looking up from there: it is at most
three lines away, and no line in between has a method. -/
theorem annotatedAt_iff (hmethod : (method? (lineAt text n)).isSome) :
    AnnotatedAt text n ↔ ∃ k < annotationReach,
      Pattern.OpensWithAnnotation (lineAt text (n - 1 - k)) ∧
        ∀ j < k, method? (lineAt text (n - 1 - j)) = none := by
  simp only [AnnotatedAt, methodLine?, List.find?_range'_eq_some, List.mem_range'_1, hmethod,
    true_and]
  constructor
  · rintro ⟨m, hopens, ⟨hlow, hhigh⟩, hnone⟩
    have hm : n - 1 - (n - 1 - m) = m := by omega
    refine ⟨n - 1 - m, by omega, by rwa [hm], fun j hj => ?_⟩
    simpa using hnone (n - 1 - j) (by omega) (by omega)
  · rintro ⟨k, hk, hopens, hnone⟩
    have hpos : 1 ≤ n - 1 - k := (le_of_lineAt_ne_nil hopens.ne_nil).1
    refine ⟨n - 1 - k, hopens, by omega, fun j hlow hhigh => ?_⟩
    have hj : n - 1 - (n - 1 - j) = j := by omega
    have hnot := hnone (n - 1 - j) (by omega)
    rw [hj] at hnot
    simp [hnot]

theorem attributedAt_succ_iff {i : Nat} :
    AttributedAt text (i + 1) ↔ (∃ mark ∈ Pattern.attributeMarks, mark <:+: lineAt text (i + 1)) ∨
      ∃ k < attributeReach, ∃ mark ∈ Pattern.attributeMarks, mark <:+: lineAt text (i - k) := by
  simp only [AttributedAt, ← Nat.lt_succ_iff, Nat.succ_eq_add_one]
  rw [Nat.exists_lt_succ_left]
  simp only [Nat.sub_zero, Nat.add_sub_add_right]

theorem declaredAs?_eq_some_iff {i : Nat} (hi : i < (trimmedLines text.toList).length) :
    declaredAs? ((((trimmedLines text.toList).take i).reverse).map .ofLine) (lineAt text (i + 1))
      style = some name ↔ NamedAt text (i + 1) name style := by
  match style with
  | .annotated =>
    simp only [declaredAs?, Option.ite_none_right_eq_some, annotatedWithin_iff,
      getD_reverse_take text hi.le, Pattern.isAnnotation_iff, NamedAt]
    refine and_congr_left fun hmethod => ?_
    rw [annotatedAt_iff (by rw [hmethod]; rfl), Nat.add_sub_cancel]
  | .attribute =>
    simp only [declaredAs?, Option.ite_none_right_eq_some, Bool.or_eq_true, any_hasAttribute_iff,
      getD_reverse_take text hi.le, Pattern.isAttribute_iff, NamedAt, attributedAt_succ_iff]
  | .testCase | .convention | .voidFunction => rfl

/-- A scan lists what the lines declare. -/
theorem mem_scan_iff {d : Declaration} :
    d ∈ scan text ↔ NamedAt text d.line d.declared.name.toList d.declared.style := by
  rw [scan_eq, mem_listing]
  constructor
  · rintro ⟨i, line, hline, hnumber, hdeclared⟩
    rw [List.append_nil, mem_declaredOn] at hdeclared
    have hat : lineAt text (i + 1) = line := by rw [lineAt_succ, hline, Option.getD_some]
    rw [hnumber, Nat.add_comm, ← declaredAs?_eq_some_iff (List.getElem?_eq_some_iff.1 hline).1, hat]
    exact hdeclared
  · intro hnamed
    obtain ⟨hpos, hle⟩ := le_of_lineAt_ne_nil hnamed.lineAt_ne_nil
    obtain ⟨i, hi⟩ := Nat.exists_eq_add_of_le' hpos
    rw [hi] at hnamed hle
    refine ⟨i, lineAt text (i + 1), ?_, by omega, ?_⟩
    · rw [lineAt_succ, List.getElem?_eq_getElem hle, Option.getD_some]
    · rw [List.append_nil, mem_declaredOn]
      exact (declaredAs?_eq_some_iff hle).2 hnamed

end

end SpecCoverage.Declaration
