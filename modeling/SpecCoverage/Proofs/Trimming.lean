-- SUMMARY: Trimming and lines: blanks at the ends do not matter, and the lines of a text joined from lines.
import Mathlib.Data.List.TakeWhile
import SpecCoverage.Text.Line

/-!
# Trimming and lines

A text is trimmed to what stands between its first and its last character that is not blank. Texts
whose ends are not blank are left alone, and blanks put around a text make no difference. The lines
of a text are known up to the blanks around them.
-/
namespace SpecCoverage.Text

/-- Are all characters blank? -/
def AllBlank (s : List Char) : Prop :=
  ∀ c ∈ s, isBlank c = true

-- Through the list: a search for an instance may find the one that tries every character.
instance (s : List Char) : Decidable (AllBlank s) :=
  List.decidableBAll (fun c => isBlank c = true) s

/-! ## At the front -/

theorem trimStart_append_of_allBlank {a : List Char} (s : List Char) (ha : AllBlank a) :
    trimStart (a ++ s) = trimStart s :=
  List.dropWhile_append_of_pos ha

theorem trimStart_cons_of_not_isBlank {c : Char} (s : List Char) (hc : isBlank c = false) :
    trimStart (c :: s) = c :: s := by
  simp [trimStart, hc]

theorem trimStart_eq_nil_iff {s : List Char} : trimStart s = [] ↔ AllBlank s :=
  List.dropWhile_eq_nil_iff

/-- What is trimmed off the front is blank. -/
theorem exists_trimStart (s : List Char) : ∃ a, AllBlank a ∧ s = a ++ trimStart s :=
  ⟨s.takeWhile isBlank, fun _ hc => List.mem_takeWhile_imp hc,
    List.takeWhile_append_dropWhile.symm⟩

theorem trimStart_append_of_ne_nil {s : List Char} (t : List Char) (hs : trimStart s ≠ []) :
    trimStart (s ++ t) = trimStart s ++ t := by
  unfold trimStart at hs ⊢
  rw [List.dropWhile_append, if_neg (by simpa using hs)]

/-! ## At the end -/

theorem AllBlank.reverse {s : List Char} (h : AllBlank s) : AllBlank s.reverse :=
  fun c hc => h c (List.mem_reverse.1 hc)

theorem trimEnd_append_of_allBlank (s : List Char) {b : List Char} (hb : AllBlank b) :
    trimEnd (s ++ b) = trimEnd s := by
  rw [trimEnd, List.reverse_append, trimStart_append_of_allBlank _ hb.reverse, ← trimEnd]

theorem trimEnd_concat_of_not_isBlank (s : List Char) {c : Char} (hc : isBlank c = false) :
    trimEnd (s ++ [c]) = s ++ [c] := by
  rw [trimEnd, List.reverse_append, List.reverse_singleton, List.singleton_append,
    trimStart_cons_of_not_isBlank _ hc, List.reverse_cons, List.reverse_reverse]

theorem trimEnd_append_of_ne_nil (s : List Char) {t : List Char} (ht : trimEnd t ≠ []) :
    trimEnd (s ++ t) = s ++ trimEnd t := by
  have hrev : trimStart t.reverse ≠ [] := by simpa [trimEnd] using ht
  rw [trimEnd, List.reverse_append, trimStart_append_of_ne_nil _ hrev, List.reverse_append,
    List.reverse_reverse, ← trimEnd]

theorem trimEnd_eq_nil_iff {s : List Char} : trimEnd s = [] ↔ AllBlank s := by
  rw [trimEnd, List.reverse_eq_nil_iff, trimStart_eq_nil_iff]
  exact ⟨fun h => by simpa using h.reverse, AllBlank.reverse⟩

/-- What is trimmed off the end is blank. -/
theorem exists_trimEnd (s : List Char) : ∃ b, AllBlank b ∧ s = trimEnd s ++ b := by
  obtain ⟨a, ha, hs⟩ := exists_trimStart s.reverse
  refine ⟨a.reverse, ha.reverse, ?_⟩
  rw [trimEnd, ← List.reverse_append, ← hs, List.reverse_reverse]

theorem trimEnd_trimEnd (s : List Char) : trimEnd (trimEnd s) = trimEnd s := by
  obtain ⟨b, hb, hs⟩ := exists_trimEnd s
  conv => rhs; rw [hs, trimEnd_append_of_allBlank _ hb]

theorem trimEnd_append_of_trimEnd_eq {s : List Char} (t : List Char) (hs : trimEnd s = s) :
    trimEnd (s ++ t) = s ++ trimEnd t := by
  by_cases ht : trimEnd t = []
  · rw [trimEnd_append_of_allBlank _ (trimEnd_eq_nil_iff.1 ht), hs, ht, List.append_nil]
  · exact trimEnd_append_of_ne_nil s ht

theorem trimEnd_of_forall_not_isBlank {s : List Char} (hs : ∀ c ∈ s, isBlank c = false) :
    trimEnd s = s := by
  cases h : s.reverse with
  | nil => rw [List.reverse_eq_nil_iff.1 h]; rfl
  | cons c r =>
    have hc : isBlank c = false := hs c (List.mem_reverse.1 (by simp [h]))
    have hs : s = r.reverse ++ [c] := by simpa using congrArg List.reverse h
    rw [hs, trimEnd_concat_of_not_isBlank _ hc]

/-! ## At both ends -/

theorem trim_append_of_allBlank {a b : List Char} (s : List Char) (ha : AllBlank a)
    (hb : AllBlank b) : trim (a ++ s ++ b) = trim s := by
  rw [trim, List.append_assoc, trimStart_append_of_allBlank _ ha]
  by_cases hs : trimStart s = []
  · have hblank : AllBlank s := trimStart_eq_nil_iff.1 hs
    rw [trimStart_append_of_allBlank _ hblank, trimStart_eq_nil_iff.2 hb, trim, hs]
  · rw [trimStart_append_of_ne_nil _ hs, trimEnd_append_of_allBlank _ hb, trim]

/-- A text that does not start with a blank is trimmed at its end alone. -/
theorem trim_cons_of_not_isBlank {c : Char} (s : List Char) (hc : isBlank c = false) :
    trim (c :: s) = trimEnd (c :: s) := by
  rw [trim, trimStart_cons_of_not_isBlank _ hc]

/-- Behind a front that is trimmed already only the end is trimmed. -/
theorem trim_append_of_trimStart_eq {s t : List Char} (hs : trimStart s = s) (hs0 : s ≠ [])
    (ht : trimEnd t ≠ []) : trim (s ++ t) = s ++ trimEnd t := by
  have hstart : trimStart s ≠ [] := by rwa [hs]
  rw [trim, trimStart_append_of_ne_nil t hstart, hs, trimEnd_append_of_ne_nil s ht]

/-- A text whose front and whose end are trimmed is trimmed. -/
theorem trim_append_eq_self {s t : List Char} (m : List Char) (hs : trimStart s = s) (hs0 : s ≠ [])
    (ht : trimEnd t = t) (ht0 : t ≠ []) : trim (s ++ (m ++ t)) = s ++ (m ++ t) := by
  have hend : trimEnd (m ++ t) = m ++ t := by
    rw [trimEnd_append_of_ne_nil m (by rwa [ht]), ht]
  rw [trim_append_of_trimStart_eq hs hs0, hend]
  rw [hend]
  exact List.append_ne_nil_of_right_ne_nil m ht0

theorem trim_of_forall_not_isBlank {s : List Char} (hs : ∀ c ∈ s, isBlank c = false) :
    trim s = s := by
  cases s with
  | nil => rfl
  | cons c s =>
    rw [trim_cons_of_not_isBlank s (hs c (by simp)), trimEnd_of_forall_not_isBlank hs]

theorem trim_eq_nil_iff {s : List Char} : trim s = [] ↔ AllBlank s := by
  rw [trim, trimEnd_eq_nil_iff]
  constructor
  · intro h
    obtain ⟨a, ha, hs⟩ := exists_trimStart s
    rw [hs]
    intro c hc
    rcases List.mem_append.1 hc with hc | hc
    · exact ha c hc
    · exact h c hc
  · intro h
    rw [trimStart_eq_nil_iff.2 h]
    intro c hc
    cases hc

theorem trim_trimStart (s : List Char) : trim (trimStart s) = trim s := by
  obtain ⟨a, ha, hs⟩ := exists_trimStart s
  conv => rhs; rw [hs, ← List.append_nil (a ++ _)]
  exact (trim_append_of_allBlank _ ha fun _ hc => by cases hc).symm

theorem trim_trimEnd (s : List Char) : trim (trimEnd s) = trim s := by
  obtain ⟨b, hb, hs⟩ := exists_trimEnd s
  conv => rhs; rw [hs, ← List.nil_append (trimEnd s)]
  exact (trim_append_of_allBlank _ (fun _ hc => by cases hc) hb).symm

theorem trim_trim (s : List Char) : trim (trim s) = trim s :=
  (trim_trimEnd (trimStart s)).trans (trim_trimStart s)

theorem trim_cons_space (s : List Char) : trim (' ' :: s) = trim s := by
  rw [trim, trim]
  rfl

/-- A text is its trimmed form with blanks around it. -/
theorem exists_trim (s : List Char) : ∃ a b, AllBlank a ∧ AllBlank b ∧ s = a ++ trim s ++ b := by
  obtain ⟨a, ha, hfront⟩ := exists_trimStart s
  obtain ⟨b, hb, hend⟩ := exists_trimEnd (trimStart s)
  refine ⟨a, b, ha, hb, ?_⟩
  rw [trim, List.append_assoc, ← hend, ← hfront]

theorem not_isBlank_of_mem_head?_trimStart {s : List Char} {c : Char}
    (h : c ∈ (trimStart s).head?) : isBlank c = false := by
  have hhead := List.head?_dropWhile_not isBlank s
  unfold trimStart at h
  rw [Option.mem_def.1 h] at hhead
  exact hhead

theorem not_isBlank_of_mem_getLast?_trim {s : List Char} {c : Char}
    (h : c ∈ (trim s).getLast?) : isBlank c = false := by
  rw [trim, trimEnd, List.getLast?_reverse] at h
  exact not_isBlank_of_mem_head?_trimStart h

/-- What is left of the end begins as before. -/
theorem not_isBlank_of_mem_head?_trim {s : List Char} {c : Char}
    (h : c ∈ (trim s).head?) : isBlank c = false := by
  obtain ⟨b, -, hend⟩ := exists_trimEnd (trimStart s)
  refine not_isBlank_of_mem_head?_trimStart (s := s) ?_
  have hfront : (trimEnd (trimStart s)).head? = some c := h
  rw [hend, List.head?_append, hfront]
  exact Option.mem_some_self c

/-! ## Lines -/

theorem trim_dropReturn (s : List Char) : trim (dropReturn s) = trim s := by
  unfold dropReturn
  split
  · rename_i r hr
    have hs : s = [] ++ r.reverse ++ ['\r'] := by
      simpa using congrArg List.reverse hr
    rw [hs]
    refine (trim_append_of_allBlank _ (fun _ hc => by cases hc) fun c hc => ?_).symm
    rw [List.mem_singleton.1 hc]
    decide
  · rfl

theorem splitAtChars_ne_nil (p : Char → Bool) (s : List Char) : splitAtChars p s ≠ [] := by
  cases s with
  | nil => simp
  | cons c s =>
    rw [splitAtChars_cons]
    split
    · simp
    · cases splitAtChars p s <;> simp [consWord]

theorem splitAtChars_of_forall_not {p : Char → Bool} {s : List Char} (hs : ∀ c ∈ s, p c = false) :
    splitAtChars p s = [s] := by
  induction s with
  | nil => rfl
  | cons c s ih =>
    rw [splitAtChars_cons, hs c (by simp), ih fun x hx => hs x (by simp [hx])]
    rfl

theorem splitAtChars_append_cons {p : Char → Bool} {a : List Char} {c : Char} (s : List Char)
    (ha : ∀ x ∈ a, p x = false) (hc : p c = true) :
    splitAtChars p (a ++ c :: s) = a :: splitAtChars p s := by
  induction a with
  | nil => simp [splitAtChars_cons, hc]
  | cons x a ih =>
    rw [List.cons_append, splitAtChars_cons, ha x (by simp),
      ih fun y hy => ha y (by simp [hy])]
    rfl

/-- Texts without line feeds, joined by line feeds. -/
def joinLines (ls : List (List Char)) : List Char :=
  List.intercalate ['\n'] ls

theorem splitAtChars_joinLines {ls : List (List Char)} (hne : ls ≠ [])
    (hls : ∀ l ∈ ls, '\n' ∉ l) : splitAtChars (· == '\n') (joinLines ls) = ls := by
  have hfree {l : List Char} (hl : '\n' ∉ l) : ∀ c ∈ l, (c == '\n') = false := by
    intro c hc
    rw [beq_eq_false_iff_ne]
    rintro rfl
    exact hl hc
  induction ls with
  | nil => exact absurd rfl hne
  | cons l ls ih =>
    have hl := hfree (hls l (by simp))
    cases ls with
    | nil =>
      have hjoin : joinLines [l] = l := by simp [joinLines]
      rw [hjoin, splitAtChars_of_forall_not hl]
    | cons m ms =>
      have hjoin : joinLines (l :: m :: ms) = l ++ '\n' :: joinLines (m :: ms) := by
        simp [joinLines, List.intercalate_cons_cons]
      rw [hjoin, splitAtChars_append_cons _ hl (by decide),
        ih (by simp) fun x hx => hls x (by simp [hx])]

/-- Lines that each end in a line feed have nothing behind the last one. -/
theorem flatMap_newline_eq_joinLines (ls : List (List Char)) :
    (ls.flatMap fun l => l ++ ['\n']) = joinLines (ls ++ [[]]) := by
  induction ls with
  | nil => rfl
  | cons l ls ih =>
    rw [List.flatMap_cons, ih]
    cases ls with
    | nil => simp [joinLines, List.intercalate_cons_cons]
    | cons m ms => simp [joinLines, List.intercalate_cons_cons]

/-- Lines that have anything but blanks do not depend on how the last line ends. -/
theorem filter_trimmedLines (s : List Char) :
    (trimmedLines s).filter (!·.isEmpty) =
      ((splitAtChars (· == '\n') s).map trim).filter (!·.isEmpty) := by
  obtain ⟨front, last, hpieces⟩ : ∃ front last, splitAtChars (· == '\n') s = front ++ [last] :=
    ⟨_, _, (List.dropLast_concat_getLast (splitAtChars_ne_nil _ _)).symm⟩
  have hfront : (front.map dropReturn).map trim = front.map trim := by
    rw [List.map_map]
    exact List.map_congr_left fun l _ => trim_dropReturn l
  -- The last piece alone may lack its line feed, and it counts just when it is not empty.
  unfold trimmedLines lines closeLines
  rw [hpieces, List.dropLast_concat, List.getLast?_concat, List.map_append, hfront,
    List.map_append, List.filter_append, List.filter_append]
  cases last with
  | nil => rfl
  | cons c l => rfl

/-- The lines of joined lines, but for blank ones. -/
theorem filter_trimmedLines_joinLines {ls : List (List Char)} (hls : ∀ l ∈ ls, '\n' ∉ l) :
    (trimmedLines (joinLines ls)).filter (!·.isEmpty) = (ls.map trim).filter (!·.isEmpty) := by
  rw [filter_trimmedLines]
  cases ls with
  | nil => rfl
  | cons l ls => rw [splitAtChars_joinLines (by simp) hls]

end SpecCoverage.Text
