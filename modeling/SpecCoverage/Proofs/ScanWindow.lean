-- SUMMARY: What a scan reports on a line depends on that line and the five above it alone, so it moves with the text.
import Mathlib.Data.List.Sort
import SpecCoverage.Proofs.ScannedLines
import SpecCoverage.Proofs.Trimming

/-!
# The window of a line

A declaration is found by searches that start on other lines: on the annotation above it, or at the
beginning of the text. All that they look at on the way lies within five lines above the declaration
(`NamedAt.of_window`), so what is reported on a line is the same wherever this window stands.
-/
namespace SpecCoverage.Declaration

open Text

/-! ## Windows -/

/-- Do two texts have the same lines within five lines above a line of each, and on it? Lines in
front of a text are blank. -/
def SameWindow (text text' : String) (n n' : Nat) : Prop :=
  ∀ k ≤ 5, lineAt text' (n' - k) = lineAt text (n - k)

/-- The names that a scan reports on a line, with their styles. -/
def reportedOn (text : String) (n : Nat) : SortedSet Declared :=
  .ofList (((scan text).filter (·.line = n)).map (·.declared))

variable {text text' : String} {n n' : Nat}

theorem mem_reportedOn {d : Declared} :
    d ∈ reportedOn text n ↔ NamedAt text n d.name.toList d.style := by
  rw [reportedOn, SortedSet.mem_ofList, List.mem_map]
  constructor
  · rintro ⟨e, he, rfl⟩
    obtain ⟨he, hline⟩ := List.mem_filter.1 he
    rw [← of_decide_eq_true hline]
    exact mem_scan_iff.1 he
  · intro h
    exact ⟨⟨n, d⟩, List.mem_filter.2 ⟨mem_scan_iff.2 h, decide_eq_true rfl⟩, rfl⟩

theorem SameWindow.symm (h : SameWindow text text' n n') : SameWindow text' text n' n :=
  fun k hk => (h k hk).symm

theorem SameWindow.lineAt_eq (h : SameWindow text text' n n') : lineAt text' n' = lineAt text n :=
  h 0 (Nat.zero_le 5)

theorem AttributedAt.of_window (h : SameWindow text text' n n') (hat : AttributedAt text n) :
    AttributedAt text' n' := by
  obtain ⟨k, hk, mark, hmark, hpiece⟩ := hat
  exact ⟨k, hk, mark, hmark, by rwa [h k hk]⟩

/-- The search that leads to a line starts on an annotation in its window. -/
theorem AnnotatedAt.of_window (h : SameWindow text text' n n') (hat : AnnotatedAt text n)
    (hmethod : (method? (lineAt text n)).isSome) : AnnotatedAt text' n' := by
  have habove (k : Nat) (hk : k < annotationReach) :
      lineAt text' (n' - 1 - k) = lineAt text (n - 1 - k) := by
    rw [annotationReach] at hk
    rw [Nat.sub_sub, Nat.sub_sub]
    exact h (1 + k) (by omega)
  rw [annotatedAt_iff hmethod] at hat
  obtain ⟨k, hk, hopens, hnone⟩ := hat
  rw [annotatedAt_iff (by rwa [h.lineAt_eq])]
  refine ⟨k, hk, by rwa [habove k hk], fun j hj => ?_⟩
  rw [habove j (hj.trans hk)]
  exact hnone j hj

/-- What a line declares it declares wherever its window stands. -/
theorem NamedAt.of_window {name : List Char} {style : DeclarationStyle}
    (h : SameWindow text text' n n') (hnamed : NamedAt text n name style) :
    NamedAt text' n' name style := by
  match style with
  | .annotated =>
    obtain ⟨hat, hmethod⟩ := hnamed
    exact ⟨hat.of_window h (by rw [hmethod]; rfl), by rwa [h.lineAt_eq]⟩
  | .attribute => exact ⟨hnamed.1.of_window h, by rw [h.lineAt_eq]; exact hnamed.2⟩
  | .testCase | .convention | .voidFunction =>
    rw [NamedAt, h.lineAt_eq]
    exact hnamed

theorem reportedOn_eq_of_window (h : SameWindow text text' n n') :
    reportedOn text' n' = reportedOn text n := by
  refine SortedSet.eq_of_mem_iff fun d => ?_
  rw [mem_reportedOn, mem_reportedOn]
  exact ⟨fun hd => hd.of_window h.symm, fun hd => hd.of_window h⟩

/-! ## Blank lines in front -/

/-- Nothing but blanks, and all on one line. -/
def IsBlankLine (b : String) : Prop :=
  AllBlank b.toList ∧ '\n' ∉ b.toList

/-- A text with lines in front of it. -/
def below (front : List String) (text : String) : String :=
  String.join (front.map (· ++ "\n")) ++ text

/-- A declaration some lines further down. -/
def moved (k : Nat) (d : Declaration) : Declaration :=
  { d with line := d.line + k }

theorem below_cons (b : String) (front : List String) (text : String) :
    below (b :: front) text = b ++ "\n" ++ below front text := by
  rw [below, List.map_cons, String.join_cons, String.append_assoc, below]

/-- The first line and those of the rest. -/
theorem trimmedLines_append_cons {l : List Char} (hl : '\n' ∉ l) (s : List Char) :
    trimmedLines (l ++ '\n' :: s) = trim l :: trimmedLines s := by
  have hfree : ∀ c ∈ l, (c == '\n') = false := by
    intro c hc
    rw [beq_eq_false_iff_ne]
    rintro rfl
    exact hl hc
  obtain ⟨piece, pieces, hpieces⟩ := List.exists_cons_of_ne_nil (splitAtChars_ne_nil (· == '\n') s)
  rw [trimmedLines, trimmedLines, lines, lines, splitAtChars_append_cons s hfree (by decide),
    hpieces, closeLines, closeLines, List.dropLast_cons_cons, List.getLast?_cons_cons]
  simp [trim_dropReturn]

theorem lineAt_below {front : List String} (hfront : ∀ b ∈ front, IsBlankLine b) (text : String)
    (n : Nat) : lineAt (below front text) n = lineAt text (n - front.length) := by
  induction front generalizing n with
  | nil => simp [below]
  | cons b front ih =>
    obtain ⟨⟨hblank, hline⟩, hrest⟩ := List.forall_mem_cons.1 hfront
    have hlines : trimmedLines (below (b :: front) text).toList =
        [] :: trimmedLines (below front text).toList := by
      have hchars : (below (b :: front) text).toList =
          b.toList ++ '\n' :: (below front text).toList := by
        rw [below_cons, String.toList_append, String.toList_append, List.append_assoc]
        rfl
      rw [hchars, trimmedLines_append_cons hline, trim_eq_nil_iff.2 hblank]
    -- Line `n + 1` of the longer text is line `n` of the shorter one, the blank line 0 included.
    cases n with
    | zero => rw [Nat.zero_sub, lineAt_zero, lineAt_zero]
    | succ n =>
      rw [lineAt_succ, hlines, List.length_cons, Nat.add_sub_add_right, ← ih hrest]
      rfl

theorem sameWindow_below {front : List String} (hfront : ∀ b ∈ front, IsBlankLine b)
    (text : String) (n : Nat) : SameWindow text (below front text) n (n + front.length) := by
  intro k _
  rw [lineAt_below hfront, Nat.sub_right_comm, Nat.add_sub_cancel]

theorem Before.moved (k : Nat) {d e : Declaration} (h : Before d e) :
    Before (d.moved k) (e.moved k) :=
  h.imp (Nat.add_lt_add_right · k) fun h => ⟨congrArg (· + k) h.1, h.2⟩

instance : Std.Asymm Before where
  asymm d e h h' := by
    have hline : d.line = e.line := Nat.le_antisymm h.line_le h'.line_le
    obtain ⟨-, hrest⟩ := h.resolve_left hline.not_lt
    obtain ⟨-, hrest'⟩ := h'.resolve_left hline.symm.not_lt
    rcases hrest with hname | ⟨hname, hstyle⟩
    · rcases hrest' with hname' | ⟨hname', -⟩
      · exact String.lt_asymm hname hname'
      · exact String.lt_irrefl _ (hname' ▸ hname)
    · rcases hrest' with hname' | ⟨-, hstyle'⟩
      · exact String.lt_irrefl _ (hname ▸ hname')
      · exact Nat.lt_asymm hstyle hstyle'

/-- Blank lines in front of a text move its declarations down. -/
theorem scan_below {front : List String} (hfront : ∀ b ∈ front, IsBlankLine b) (text : String) :
    scan (below front text) = (scan text).map (moved front.length) := by
  refine List.Pairwise.eq_of_mem_iff (scan_increasing _)
    (List.pairwise_map.2 ((scan_increasing text).imp (Before.moved _))) fun d => ?_
  rw [List.mem_map]
  constructor
  · intro hd
    have hnamed := mem_scan_iff.1 hd
    have hline : lineAt text (d.line - front.length) ≠ [] := by
      rw [← lineAt_below hfront]
      exact hnamed.lineAt_ne_nil
    have hpos := (le_of_lineAt_ne_nil hline).1
    have hsum : d.line - front.length + front.length = d.line := by omega
    have hwindow := sameWindow_below hfront text (d.line - front.length)
    rw [hsum] at hwindow
    refine ⟨⟨d.line - front.length, d.declared⟩, mem_scan_iff.2 (hnamed.of_window hwindow.symm), ?_⟩
    rw [moved, hsum]
  · rintro ⟨e, he, rfl⟩
    exact mem_scan_iff.2 ((mem_scan_iff.1 he).of_window (sameWindow_below hfront text e.line))

/-! ## Locality -/

/-- What is reported on a line is determined by its window, wherever that stands. So blank lines in
front move all declarations by their number, and edits below a line or more than five lines above it
change nothing on it. -/
theorem scan_local :
    (∀ text text' n n', SameWindow text text' n n' →
      reportedOn text' n' = reportedOn text n) ∧
    (∀ front text, (∀ b ∈ front, IsBlankLine b) →
      scan (below front text) = (scan text).map (moved front.length)) ∧
    ∀ text text' n, (∀ m ≤ n, n ≤ m + 5 → lineAt text' m = lineAt text m) →
      reportedOn text' n = reportedOn text n := by
  refine ⟨fun _ _ _ _ => reportedOn_eq_of_window, fun _ text hfront => scan_below hfront text, ?_⟩
  intro text text' n hnear
  refine reportedOn_eq_of_window fun k hk => ?_
  exact hnear (n - k) (Nat.sub_le n k) (by omega)

/-- A test and its attribute. -/
def shouldRun : String := "#[test]\nfn should_run() \x7b\x7d\n"

/-- The same test far below another function. -/
def shouldRunBelow : String := "fn main() \x7b\x7d\n\n\n\n\n\n" ++ shouldRun

theorem scan_local_shouldRun :
    SameWindow shouldRun shouldRunBelow 2 8 ∧
      ⟨"should_run", .attribute⟩ ∈ reportedOn shouldRun 2 ∧
      reportedOn shouldRunBelow 8 = reportedOn shouldRun 2 ∧
      (∀ b ∈ ["", " \t"], IsBlankLine b) ∧
      scan (below ["", " \t"] shouldRun) = (scan shouldRun).map (moved 2) ∧
      (∀ m ≤ 8, 8 ≤ m + 5 →
        lineAt (shouldRunBelow ++ "\nvoid main()") m = lineAt shouldRunBelow m) ∧
      reportedOn (shouldRunBelow ++ "\nvoid main()") 8 = reportedOn shouldRunBelow 8 := by
  have hwindow : SameWindow shouldRun shouldRunBelow 2 8 := by
    unfold SameWindow
    decide +kernel
  have hblank : ∀ b ∈ ["", " \t"], IsBlankLine b := by
    unfold IsBlankLine
    decide +kernel
  have hnear : ∀ m ≤ 8, 8 ≤ m + 5 →
      lineAt (shouldRunBelow ++ "\nvoid main()") m = lineAt shouldRunBelow m := by
    decide +kernel
  exact ⟨hwindow, by decide +kernel, scan_local.1 _ _ _ _ hwindow, hblank,
    scan_local.2.1 _ shouldRun hblank, hnear, scan_local.2.2 _ _ 8 hnear⟩

end SpecCoverage.Declaration
