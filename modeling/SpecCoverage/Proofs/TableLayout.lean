-- SUMMARY: The text table: when it can be written, columns that stand below each other, and one line for each feature below the line of its folder.
import SpecCoverage.Proofs.LineFeeds
import SpecCoverage.Proofs.Order
import SpecCoverage.Proofs.Trimming
import SpecCoverage.Table

/-!
# How the text table is laid out

A line of the table is a front and a cell behind each separator. Where all fronts and all cells are
equally wide, so are the lines, and the separators of a column stand below each other. The lines of
folders have no columns, and are one character longer than the others. No part of this can be seen
of a matrix with a name that is too wide for a column (`Printable`): it has no table.
-/
namespace SpecCoverage.Table

open Text

-- ---------------------------------------------------------------------------
-- Widths
-- ---------------------------------------------------------------------------

theorem le_foldl_max {x a : Nat} {xs : List Nat} (h : x = a ∨ x ∈ xs) : x ≤ xs.foldl max a := by
  induction xs generalizing x a with
  | nil => simpa using h.elim le_of_eq (by simp)
  | cons y ys ih =>
    rw [List.foldl_cons]
    have hstart : max a y ≤ ys.foldl max (max a y) := ih (.inl rfl)
    obtain rfl | hx := h
    · exact (Nat.le_max_left ..).trans hstart
    · obtain rfl | hx := List.mem_cons.1 hx
      · exact (Nat.le_max_right ..).trans hstart
      · exact ih (.inr hx)

theorem foldl_max_le_iff {n a : Nat} {xs : List Nat} :
    xs.foldl max a ≤ n ↔ a ≤ n ∧ ∀ x ∈ xs, x ≤ n := by
  induction xs generalizing a with
  | nil => simp
  | cons x xs ih => rw [List.foldl_cons, ih, Nat.max_le, List.forall_mem_cons, and_assoc]

namespace Layout

theorem width_header_le (m : Matrix) : width featureHeader ≤ (ofMatrix m).feature :=
  le_foldl_max (.inl rfl)

theorem width_title_le {m : Matrix} {r : Row} (hr : r ∈ m.rows) :
    width r.feature.title + indent ≤ (ofMatrix m).feature :=
  le_foldl_max (.inr (List.mem_append_left _ (List.mem_map_of_mem hr)))

theorem width_label_le {m : Matrix} {l : Language} (hl : l ∈ m.languages) :
    width l.label ≤ (ofMatrix m).language :=
  le_foldl_max (.inr (List.mem_map_of_mem hl))

theorem leastLanguageWidth_le (m : Matrix) : leastLanguageWidth ≤ (ofMatrix m).language :=
  le_foldl_max (.inl rfl)

/-- Where the separator of a language column starts; for the number of columns, where lines end. -/
def start (w : Layout) (k : Nat) : Nat :=
  w.feature + k * (w.language + 3)

theorem start_succ (w : Layout) (k : Nat) : w.start (k + 1) = w.start k + 3 + w.language := by
  rw [start, start, Nat.succ_mul]
  omega

end Layout

-- ---------------------------------------------------------------------------
-- Columns
-- ---------------------------------------------------------------------------

/-- Does a line have this separator at the start of each of `n` columns, and end behind them? -/
structure Ruled (start : Nat → Nat) (n : Nat) (separator line : List Char) : Prop where
  length : line.length = start n
  separator : ∀ k < n, line.extract (start k) (start k + 3) = separator

/-- The parts of a line are as wide as a layout has them. -/
structure Layout.Fits (w : Layout) (front separator : List Char) (cells : List (List Char)) :
    Prop where
  front : front.length = w.feature
  separator : separator.length = 3
  cells : ∀ c ∈ cells, c.length = w.language

namespace Layout.Fits

variable {w : Layout} {front separator : List Char} {cells : List (List Char)} {k : Nat}
  {c : List Char}

theorem take (h : w.Fits front separator cells) (k : Nat) :
    w.Fits front separator (cells.take k) where
  front := h.front
  separator := h.separator
  cells := fun c hc => h.cells c (List.mem_of_mem_take hc)

theorem length_ruledLine (h : w.Fits front separator cells) :
    (ruledLine front separator cells).length = w.start cells.length := by
  have hwidth : ∀ c ∈ cells, (separator ++ c).length = w.language + 3 := by
    intro c hc
    rw [List.length_append, h.separator, h.cells c hc, Nat.add_comm]
  rw [ruledLine, List.length_append, h.front, List.length_flatMap, List.map_congr_left hwidth,
    List.map_const', List.sum_replicate_nat, Layout.start]

/-- A line in front of a column, its separator, its cell, and the columns behind it. -/
theorem exists_ruledLine (h : w.Fits front separator cells) (hk : cells[k]? = some c) :
    ∃ before after, ruledLine front separator cells = before ++ separator ++ c ++ after ∧
      before.length = w.start k := by
  obtain ⟨hlt, hget⟩ := List.getElem?_eq_some_iff.1 hk
  have hcells : cells = cells.take k ++ c :: cells.drop (k + 1) := by
    rw [← hget, List.getElem_cons_drop, List.take_append_drop]
  refine ⟨ruledLine front separator (cells.take k),
    (cells.drop (k + 1)).flatMap (separator ++ ·), ?_, ?_⟩
  · conv => lhs; rw [hcells]
    simp [ruledLine, List.flatMap_append, List.append_assoc]
  · rw [(h.take k).length_ruledLine, List.length_take, Nat.min_eq_left hlt.le]

theorem extract_cell (h : w.Fits front separator cells) (hk : cells[k]? = some c) :
    (ruledLine front separator cells).extract (w.start k + 3) (w.start (k + 1)) = c := by
  obtain ⟨before, after, hline, hbefore⟩ := h.exists_ruledLine hk
  have hc : c.length = w.language := h.cells c (List.mem_of_getElem? hk)
  have hfront : (before ++ separator).length = w.start k + 3 := by
    rw [List.length_append, hbefore, h.separator]
  rw [hline, start_succ, List.extract_eq_take_drop, List.append_assoc (before ++ separator),
    ← hfront, List.drop_left, Nat.add_sub_cancel_left, ← hc, List.take_left]

theorem ruled (h : w.Fits front separator cells) :
    Ruled w.start cells.length separator (ruledLine front separator cells) where
  length := h.length_ruledLine
  separator := by
    intro k hk
    obtain ⟨before, after, hline, hbefore⟩ := h.exists_ruledLine (List.getElem?_eq_getElem hk)
    rw [hline, List.extract_eq_take_drop, List.append_assoc, List.append_assoc, ← hbefore,
      List.drop_left, Nat.add_sub_cancel_left, ← h.separator, List.take_left]

end Layout.Fits

-- ---------------------------------------------------------------------------
-- The lines of a matrix
-- ---------------------------------------------------------------------------

/-- How the table words what was reported for a feature and a language. -/
inductive Shows (r : Row) (l : Language) : String → Prop
  | pass {res : LanguageResult} (hres : r.result? l = some res) (h : res.implemented = true) :
    Shows r l "PASS"
  | fail {res : LanguageResult} (hres : r.result? l = some res) (h : res.implemented = false) :
    Shows r l "FAIL"
  | absent (h : r.result? l = none) : Shows r l "N/A"

theorem shows_cell (r : Row) (l : Language) : Shows r l (cell r l) := by
  unfold cell
  split
  · rename_i res hres
    split
    · exact .pass hres ‹_›
    · exact .fail hres (eq_false_of_ne_true ‹_›)
  · exact .absent ‹_›

/-- The table has one word for a feature and a language. -/
theorem shows_iff {r : Row} {l : Language} {s : String} : Shows r l s ↔ cell r l = s := by
  constructor
  · intro h
    cases h with
    | pass hres h => simp [cell, hres, h, Status.label]
    | fail hres h => simp [cell, hres, h, Status.label]
    | absent h => simp [cell, h]
  · rintro rfl
    exact shows_cell r l

theorem Shows.not_isBlank {r : Row} {l : Language} {s : String} (h : Shows r l s) :
    ∀ c ∈ s.toList, isBlank c = false := by
  have hall : s.toList.all (fun c => !isBlank c) = true := by cases h <;> decide
  simpa using hall

theorem Shows.newline_notMem {r : Row} {l : Language} {s : String} (h : Shows r l s) :
    '\n' ∉ s.toList := by
  cases h <;> decide

theorem Shows.width_le {r : Row} {l : Language} {s : String} (h : Shows r l s) :
    width s ≤ leastLanguageWidth := by
  cases h <;> decide

theorem trim_filled {w : Nat} {s : String} (h : ∀ c ∈ s.toList, isBlank c = false) :
    trim (filled w s) = s.toList := by
  have hspaces : AllBlank (List.replicate (w - s.toList.length) ' ') := by
    intro c hc
    rw [List.eq_of_mem_replicate hc]
    decide
  calc trim (filled w s) = trim ([] ++ s.toList ++ List.replicate (w - s.toList.length) ' ') := rfl
    _ = trim s.toList := trim_append_of_allBlank _ (fun _ hc => by cases hc) hspaces
    _ = s.toList := trim_of_forall_not_isBlank h

section

variable (m : Matrix)

/-- The header of the table of a matrix. -/
def headerOf : List Char :=
  let w := Layout.ofMatrix m
  ruledLine (filled w.feature featureHeader) " | ".toList
    (m.languages.map fun l => filled w.language l.label)

/-- The rule of the table of a matrix. -/
def ruleOf : List Char :=
  ruleLine (.ofMatrix m) m.languages

/-- The line of a feature in the table of a matrix. -/
def lineOf (r : Row) : List Char :=
  let w := Layout.ofMatrix m
  ruledLine (List.replicate indent ' ' ++ filled (w.feature - indent) r.feature.title) " | ".toList
    (m.languages.map fun l => filled w.language (cell r l))

theorem fits_headerOf : (Layout.ofMatrix m).Fits
    (filled (Layout.ofMatrix m).feature featureHeader) " | ".toList
    (m.languages.map fun l => filled (Layout.ofMatrix m).language l.label) where
  front := length_filled (Layout.width_header_le m)
  separator := by decide
  cells := by
    simp only [List.forall_mem_map]
    exact fun l hl => length_filled (Layout.width_label_le hl)

theorem fits_ruleOf : (Layout.ofMatrix m).Fits
    (List.replicate (Layout.ofMatrix m).feature '-') "-|-".toList
    (m.languages.map fun _ => List.replicate (Layout.ofMatrix m).language '-') where
  front := List.length_replicate
  separator := by decide
  cells := by
    simp only [List.forall_mem_map]
    exact fun _ _ => List.length_replicate

variable {m} in
theorem fits_lineOf {r : Row} (hr : r ∈ m.rows) : (Layout.ofMatrix m).Fits
    (List.replicate indent ' ' ++ filled ((Layout.ofMatrix m).feature - indent) r.feature.title)
    " | ".toList (m.languages.map fun l => filled (Layout.ofMatrix m).language (cell r l)) where
  front := by
    have htitle := Layout.width_title_le hr
    rw [List.length_append, List.length_replicate, length_filled (by omega)]
    omega
  separator := by decide
  cells := by
    simp only [List.forall_mem_map]
    intro l _
    exact length_filled ((shows_cell r l).width_le.trans (Layout.leastLanguageWidth_le m))

end

/-- The part of a table for a folder: the line of the folder, and a line for each feature. -/
structure Part where
  folder : String
  heading : List Char
  rows : List (Row × List Char)

def Part.lines (p : Part) : List (List Char) :=
  p.heading :: p.rows.map (·.2)

/-- A line for a feature, with its verdicts in the columns of their languages. -/
structure ShowsRow (m : Matrix) (start : Nat → Nat) (r : Row) (line : List Char) : Prop where
  ruled : Ruled start m.languages.length " | ".toList line
  title : "  ".toList ++ r.feature.title.toList <+: line
  verdict : ∀ k l, m.languages[k]? = some l →
    Shows r l (String.ofList (trim (line.extract (start k + 3) (start (k + 1)))))

/-- Lines that show a matrix as a table. -/
structure ShowsMatrix (m : Matrix) (start : Nat → Nat) (header rule : List Char)
    (parts : List Part) : Prop where
  header : Ruled start m.languages.length " | ".toList header
  rule : Ruled start m.languages.length "-|-".toList rule
  folders : (parts.map (·.folder)).Nodup
  heading : ∀ p ∈ parts, "=== ".toList ++ (Folder.banner p.folder).toList <+: p.heading
  rows : (parts.flatMap fun p => p.rows.map (·.1)).Perm m.rows
  folder : ∀ p ∈ parts, ∀ row ∈ p.rows, row.1.feature.folder = p.folder
  row : ∀ p ∈ parts, ∀ row ∈ p.rows, ShowsRow m start row.1 row.2

theorem showsRow_lineOf {m : Matrix} {r : Row} (hr : r ∈ m.rows) :
    ShowsRow m (Layout.ofMatrix m).start r (lineOf m r) where
  ruled := by
    have h := (fits_lineOf hr).ruled
    rwa [List.length_map] at h
  title := by
    rw [lineOf, ruledLine, filled]
    simp only [List.append_assoc]
    exact (List.prefix_append_right_inj _).2 (List.prefix_append ..)
  verdict := by
    intro k l hl
    have hcell : (m.languages.map fun l => filled (Layout.ofMatrix m).language (cell r l))[k]? =
        some (filled (Layout.ofMatrix m).language (cell r l)) := by
      rw [List.getElem?_map, hl, Option.map_some]
    rw [lineOf, (fits_lineOf hr).extract_cell hcell, trim_filled (shows_cell r l).not_isBlank,
      String.ofList_toList]
    exact shows_cell r l

/-- The part of a folder in the table of a matrix. -/
def Part.ofFolder (m : Matrix) (e : String × List Row) : Part where
  folder := e.1
  heading := folderLine (.ofMatrix m) e.1
  rows := e.2.map fun r => (r, lineOf m r)

/-- The parts of the table of a matrix. -/
def parts (m : Matrix) : List Part :=
  m.folders.entries.map (Part.ofFolder m)

/-- The lines of the table of a matrix. -/
def linesOf (m : Matrix) : List (List Char) :=
  headerOf m :: ruleOf m :: (parts m).flatMap Part.lines

theorem folder_of_mem_folders {m : Matrix} {e : String × List Row} (he : e ∈ m.folders.entries)
    {r : Row} (hr : r ∈ e.2) : r ∈ m.rows ∧ r.feature.folder = e.1 := by
  have hmem := SortedMap.mem_of_mem_group (k := e.1) he hr
  obtain ⟨s, hs, heq⟩ := List.mem_map.1 hmem
  obtain ⟨hfolder, rfl⟩ := Prod.mk.inj heq
  exact ⟨hs, hfolder⟩

theorem folder_mem_keys {m : Matrix} {r : Row} (hr : r ∈ m.rows) :
    r.feature.folder ∈ m.folders.keys := by
  rw [SortedMap.mem_keys_iff, Matrix.folders, SortedMap.get?_group, Option.isSome_ite, List.map_map]
  exact List.mem_map_of_mem (f := fun r : Row => r.feature.folder) hr

theorem exists_of_mem_folders {m : Matrix} {e : String × List Row} (he : e ∈ m.folders.entries) :
    ∃ r ∈ m.rows, r.feature.folder = e.1 := by
  have hkey := SortedMap.mem_keys_iff.1 (List.mem_map_of_mem (f := (·.1)) he)
  rw [Matrix.folders, SortedMap.get?_group, Option.isSome_ite, List.map_map] at hkey
  exact List.mem_map.1 hkey

theorem showsMatrix_parts (m : Matrix) :
    ShowsMatrix m (Layout.ofMatrix m).start (headerOf m) (ruleOf m) (parts m) where
  header := by
    have h := (fits_headerOf m).ruled
    rwa [List.length_map] at h
  rule := by
    have h := (fits_ruleOf m).ruled
    rwa [List.length_map] at h
  folders := by
    rw [parts, List.map_map]
    exact m.folders.keys_nodup
  heading := by
    rw [parts, List.forall_mem_map]
    intro e _
    exact (List.prefix_append ..).trans (List.prefix_append ..)
  rows := by
    have hrows : ((parts m).flatMap fun p => p.rows.map (·.1)) = m.folders.values.flatten := by
      simp [parts, Part.ofFolder, SortedMap.values, List.flatMap_def,
        Function.comp_def]
    have hperm := SortedMap.perm_flatten_values_group (m.rows.map fun r => (r.feature.folder, r))
    rw [List.map_map, Function.comp_def, List.map_id'] at hperm
    exact hrows ▸ hperm
  folder := by
    rw [parts, List.forall_mem_map]
    intro e he
    simp only [Part.ofFolder, List.forall_mem_map]
    exact fun r hr => (folder_of_mem_folders he hr).2
  row := by
    rw [parts, List.forall_mem_map]
    intro e he
    simp only [Part.ofFolder, List.forall_mem_map]
    exact fun r hr => showsRow_lineOf (folder_of_mem_folders he hr).1

-- ---------------------------------------------------------------------------
-- Tables that can be written
-- ---------------------------------------------------------------------------

/-- No title, folder or language is too wide for its column, the titles with the indent before
them. -/
structure Printable (m : Matrix) : Prop where
  titles : ∀ r ∈ m.rows, width r.feature.title + 2 ≤ 65535
  folders : ∀ r ∈ m.rows, width (Folder.title r.feature.folder) ≤ 65535
  languages : ∀ l ∈ m.languages, width l.label ≤ 65535

theorem printable_iff {m : Matrix} : Printable m ↔
    (Layout.ofMatrix m).feature ≤ widthLimit ∧ (Layout.ofMatrix m).language ≤ widthLimit := by
  have hfolders : (∀ f ∈ m.folders.keys, width (Folder.title f) ≤ widthLimit) ↔
      ∀ r ∈ m.rows, width (Folder.title r.feature.folder) ≤ widthLimit := by
    constructor
    · exact fun h r hr => h _ (folder_mem_keys hr)
    · intro h f hf
      obtain ⟨e, he, rfl⟩ := List.mem_map.1 hf
      obtain ⟨r, hr, hfolder⟩ := exists_of_mem_folders he
      exact hfolder ▸ h r hr
  have hheader : width featureHeader ≤ widthLimit := by decide
  have hleast : leastLanguageWidth ≤ widthLimit := by decide
  simp only [Layout.ofMatrix, foldl_max_le_iff, List.forall_mem_append, List.forall_mem_map,
    hfolders, hheader, hleast, true_and]
  exact ⟨fun h => ⟨⟨h.titles, h.folders⟩, h.languages⟩, fun h => ⟨h.1.1, h.1.2, h.2⟩⟩

theorem pad?_of_le {w : Nat} (h : w ≤ widthLimit) (s : String) : pad? w s = some (filled w s) :=
  if_pos h

theorem pad?_of_lt {w : Nat} (h : widthLimit < w) (s : String) : pad? w s = none :=
  if_neg (Nat.not_le.2 h)

theorem mapM_pad? {α : Type} {w : Nat} (h : w ≤ widthLimit) (f : α → String) (xs : List α) :
    (xs.mapM fun x => pad? w (f x)) = some (xs.map fun x => filled w (f x)) := by
  simp only [pad?_of_le h]
  exact List.mapM_pure

section

variable {m : Matrix}

theorem headerLine?_eq (h : Printable m) :
    headerLine? (.ofMatrix m) m.languages = some (headerOf m) := by
  obtain ⟨hfeature, hlanguage⟩ := printable_iff.1 h
  rw [headerLine?, pad?_of_le hfeature, mapM_pad? hlanguage]
  rfl

theorem rowLine?_eq (h : Printable m) (r : Row) :
    rowLine? (.ofMatrix m) m.languages r = some (lineOf m r) := by
  obtain ⟨hfeature, hlanguage⟩ := printable_iff.1 h
  rw [rowLine?, pad?_of_le ((Nat.sub_le ..).trans hfeature), mapM_pad? hlanguage]
  rfl

theorem folderLines?_eq (h : Printable m) (e : String × List Row) :
    folderLines? (.ofMatrix m) m.languages e.1 e.2 = some (Part.ofFolder m e).lines := by
  have hrows : e.2.mapM (rowLine? (.ofMatrix m) m.languages) = some (e.2.map (lineOf m)) := by
    rw [funext (rowLine?_eq h)]
    exact List.mapM_pure
  rw [folderLines?, hrows, Part.lines, Part.ofFolder, List.map_map]
  rfl

theorem lines?_eq (h : Printable m) : lines? m = some (linesOf m) := by
  have hparts : (m.folders.entries.mapM fun e =>
      folderLines? (.ofMatrix m) m.languages e.1 e.2) = some ((parts m).map Part.lines) := by
    rw [funext (folderLines?_eq h), parts, List.map_map]
    exact List.mapM_pure
  rw [lines?, headerLine?_eq h, linesOf, List.flatMap_def]
  exact congrArg (·.bind fun parts => some (headerOf m :: ruleOf m :: parts.flatten)) hparts

/-- The header of a table fills up all columns, so it is what cannot be written first. -/
theorem lines?_eq_none (hm : m.isEmpty = false) (h : ¬ Printable m) : lines? m = none := by
  have hheader : headerLine? (.ofMatrix m) m.languages = none := by
    by_cases hfeature : (Layout.ofMatrix m).feature ≤ widthLimit
    · have hlanguage : widthLimit < (Layout.ofMatrix m).language :=
        Nat.lt_of_not_le fun hle => h (printable_iff.2 ⟨hfeature, hle⟩)
      cases hlanguages : m.languages with
      | nil => simp [Matrix.isEmpty, hlanguages] at hm
      | cons l ls =>
        rw [headerLine?, pad?_of_le hfeature, List.mapM_cons, pad?_of_lt hlanguage]
        rfl
    · rw [headerLine?, pad?_of_lt (Nat.lt_of_not_le hfeature)]
      rfl
  rw [lines?, hheader]
  rfl

theorem render?_eq_none (hm : m.isEmpty = false) (h : ¬ Printable m) : render? m = none := by
  rw [render?, if_neg (by simp [hm]), lines?_eq_none hm h]
  rfl

/-- The text of the table of a matrix. -/
def textOf (m : Matrix) : String :=
  String.ofList ((linesOf m).flatMap fun line => line ++ ['\n'])

theorem render?_eq (hm : m.isEmpty = false) (h : Printable m) : render? m = some (textOf m) := by
  rw [render?, if_neg (by simp [hm]), lines?_eq h]
  rfl

theorem render?_eq_some_iff (hm : m.isEmpty = false) {text : String} :
    render? m = some text ↔ Printable m ∧ text = textOf m := by
  by_cases h : Printable m
  · rw [render?_eq hm h, Option.some_inj, and_iff_right h, eq_comm]
  · simp [render?_eq_none hm h, h]

end

-- ---------------------------------------------------------------------------
-- Lines in the text
-- ---------------------------------------------------------------------------

theorem newline_notMem_replicate {c : Char} (hc : c ≠ '\n') (n : Nat) :
    '\n' ∉ List.replicate n c :=
  fun hmem => hc (List.eq_of_mem_replicate hmem).symm

theorem newline_notMem_filled {w : Nat} {s : String} (h : '\n' ∉ s.toList) :
    '\n' ∉ filled w s := by
  rw [filled, List.mem_append, not_or]
  exact ⟨h, newline_notMem_replicate (by decide) _⟩

theorem newline_notMem_ruledLine {front separator : List Char} {cells : List (List Char)}
    (hfront : '\n' ∉ front) (hseparator : '\n' ∉ separator) (hcells : ∀ c ∈ cells, '\n' ∉ c) :
    '\n' ∉ ruledLine front separator cells := by
  rw [ruledLine, List.mem_append, not_or, List.mem_flatMap]
  refine ⟨hfront, ?_⟩
  rintro ⟨c, hc, hmem⟩
  exact (List.mem_append.1 hmem).elim hseparator (hcells c hc)

theorem newline_notMem_folderLine {w : Layout} {folder : String} (h : '\n' ∉ folder.toList) :
    '\n' ∉ folderLine w folder := by
  have hbanner := Folder.newline_notMem_banner h
  simp [folderLine, hbanner]

theorem newline_notMem_linesOf {m : Matrix}
    (hrows : ∀ r ∈ m.rows, '\n' ∉ r.feature.title.toList ∧ '\n' ∉ r.feature.folder.toList)
    (hlanguages : ∀ l ∈ m.languages, '\n' ∉ l.key.toList) : ∀ line ∈ linesOf m, '\n' ∉ line := by
  simp only [linesOf, List.forall_mem_cons, List.forall_mem_flatMap]
  refine ⟨?_, ?_, ?_⟩
  · refine newline_notMem_ruledLine (newline_notMem_filled (by decide)) (by decide) ?_
    rw [List.forall_mem_map]
    intro l hl
    refine newline_notMem_filled ?_
    rw [Language.label, String.toList_ofList]
    exact newline_notMem_capitalizeAscii (hlanguages l hl)
  · refine newline_notMem_ruledLine (newline_notMem_replicate (by decide) _) (by decide) ?_
    rw [List.forall_mem_map]
    exact fun _ _ => newline_notMem_replicate (by decide) _
  · rw [parts, List.forall_mem_map]
    intro e he
    simp only [Part.lines, Part.ofFolder, List.forall_mem_cons, List.forall_mem_map]
    constructor
    · obtain ⟨r, hr, hfolder⟩ := exists_of_mem_folders he
      exact newline_notMem_folderLine (hfolder ▸ (hrows r hr).2)
    · intro r hr
      refine newline_notMem_ruledLine ?_ (by decide) ?_
      · rw [List.mem_append, not_or]
        exact ⟨newline_notMem_replicate (by decide) _,
          newline_notMem_filled (hrows r (folder_of_mem_folders he hr).1).1⟩
      · rw [List.forall_mem_map]
        exact fun l _ => newline_notMem_filled (shows_cell r l).newline_notMem

/-- A matrix whose names stand on one line each and are not too wide has a table: all lines but
those of the folders are equally long and have their separators below each other, and each feature
has one line, below that of its folder, with its verdicts in the columns of their languages. Where a
name is too wide there is no table. -/
theorem render?_showsMatrix {m : Matrix} (hm : m.isEmpty = false)
    (hrows : ∀ r ∈ m.rows, '\n' ∉ r.feature.title.toList ∧ '\n' ∉ r.feature.folder.toList)
    (hlanguages : ∀ l ∈ m.languages, '\n' ∉ l.key.toList) :
    (Printable m → ∃ text start header rule parts,
      render? m = some text ∧ ShowsMatrix m start header rule parts ∧
        splitAtChars (· == '\n') text.toList =
          header :: rule :: parts.flatMap Part.lines ++ [[]]) ∧
      (¬ Printable m → render? m = none) := by
  refine ⟨fun h => ?_, render?_eq_none hm⟩
  refine ⟨_, _, _, _, _, render?_eq hm h, showsMatrix_parts m, ?_⟩
  rw [textOf, String.toList_ofList, flatMap_newline_eq_joinLines]
  refine splitAtChars_joinLines (by simp) ?_
  rw [List.forall_mem_append]
  exact ⟨newline_notMem_linesOf hrows hlanguages, by decide⟩

/-- A row without tags and scenarios. -/
def plainRow (folder title : String) (results : List (Language × Bool)) : Row where
  feature :=
    { path := folder ++ "/" ++ title ++ ".feature", title, tags := [], folder
      scope := .shared, scenarios := [] }
  languages := .ofList (results.map fun (l, implemented) => (l, some ⟨l, implemented, none, ∅, ∅⟩))
  links := ∅

/-- Two folders, two languages, and a title that is wider than the header of its column. -/
def accountMatrix : Matrix where
  languages := [.core, ⟨"python"⟩]
  rows := [
    plainRow "result_set" "Fetch" [(.core, true)],
    plainRow "auth" "Log in with a key" [(.core, true), (⟨"python"⟩, false)],
    plainRow "result_set" "Close" []]
  summaries := []
  missing := []
  crossReferences := ∅

theorem render?_showsMatrix_account : accountMatrix.isEmpty = false ∧
    (∀ r ∈ accountMatrix.rows, '\n' ∉ r.feature.title.toList ∧ '\n' ∉ r.feature.folder.toList) ∧
    (∀ l ∈ accountMatrix.languages, '\n' ∉ l.key.toList) ∧
    ∃ text start header rule parts,
      render? accountMatrix = some text ∧ ShowsMatrix accountMatrix start header rule parts ∧
        splitAtChars (· == '\n') text.toList =
          header :: rule :: parts.flatMap Part.lines ++ [[]] :=
  have hrows : ∀ r ∈ accountMatrix.rows,
      '\n' ∉ r.feature.title.toList ∧ '\n' ∉ r.feature.folder.toList := by decide
  have hlanguages : ∀ l ∈ accountMatrix.languages, '\n' ∉ l.key.toList := by decide
  have hprintable : Printable accountMatrix := ⟨by decide, by decide, by decide⟩
  ⟨rfl, hrows, hlanguages, (render?_showsMatrix rfl hrows hlanguages).1 hprintable⟩

/-- The smallest matrix with a title of a given width. -/
def titleMatrix (width : Nat) : Matrix where
  languages := [.core]
  rows := [plainRow "auth" (String.ofList (List.replicate width 'a')) [(.core, true)]]
  summaries := []
  missing := []
  crossReferences := ∅

/-- A title of 65534 letters leaves no room for the indent, and the matrix has no table. -/
theorem render?_wideTitle : (titleMatrix 65534).isEmpty = false ∧
    (∀ r ∈ (titleMatrix 65534).rows,
      '\n' ∉ r.feature.title.toList ∧ '\n' ∉ r.feature.folder.toList) ∧
    (∀ l ∈ (titleMatrix 65534).languages, '\n' ∉ l.key.toList) ∧
    render? (titleMatrix 65534) = none := by
  refine ⟨rfl, ?_, by decide, render?_eq_none rfl fun h => ?_⟩
  · rw [titleMatrix, List.forall_mem_singleton, plainRow, String.toList_ofList]
    exact ⟨newline_notMem_replicate (by decide) _, by decide⟩
  · have hwidth := h.titles _ List.mem_cons_self
    rw [plainRow, width, String.toList_ofList, List.length_replicate] at hwidth
    exact absurd hwidth (by decide)

-- ---------------------------------------------------------------------------
-- The lines of folders
-- ---------------------------------------------------------------------------

theorem length_folderLine (w : Layout) (folder : String) :
    (folderLine w folder).length = max w.total (width (Folder.banner folder) + 4) + 1 := by
  simp [folderLine, width]
  omega

/-- The line of a folder whose banner fits is one character longer than the header, the rule and
the lines of features, in every table that can be written. -/
theorem render?_heading_overhangs {m : Matrix} (hm : m.isEmpty = false) (h : Printable m) :
    ∃ text start header rule parts,
      render? m = some text ∧ ShowsMatrix m start header rule parts ∧
        text.toList =
          ((header :: rule :: parts.flatMap Part.lines).flatMap fun line => line ++ ['\n']) ∧
        ∀ p ∈ parts, width (Folder.banner p.folder) + 5 ≤ header.length →
          p.heading.length = header.length + 1 := by
  have hshows := showsMatrix_parts m
  refine ⟨_, _, _, _, _, render?_eq hm h, hshows, String.toList_ofList, ?_⟩
  rw [parts, List.forall_mem_map]
  intro e _ hfits
  rw [hshows.header.length] at hfits ⊢
  change (folderLine _ e.1).length = (Layout.ofMatrix m).total + 1
  have htotal : width (Folder.banner e.1) + 5 ≤ (Layout.ofMatrix m).total := hfits
  rw [length_folderLine, Nat.max_eq_left (by omega)]

def loginMatrix : Matrix where
  languages := [.core]
  rows := [plainRow "auth" "Login" [(.core, true)]]
  summaries := []
  missing := []
  crossReferences := ∅

theorem render?_heading_overhangs_login : loginMatrix.isEmpty = false ∧ Printable loginMatrix ∧
    ∃ text start header rule parts,
      render? loginMatrix = some text ∧ ShowsMatrix loginMatrix start header rule parts ∧
        text.toList =
          ((header :: rule :: parts.flatMap Part.lines).flatMap fun line => line ++ ['\n']) ∧
        ∀ p ∈ parts, width (Folder.banner p.folder) + 5 ≤ header.length →
          p.heading.length = header.length + 1 :=
  have hprintable : Printable loginMatrix := ⟨by decide, by decide, by decide⟩
  ⟨rfl, hprintable, render?_heading_overhangs rfl hprintable⟩

/-- A banner that fits, on a line that is not as long as the others. -/
theorem render?_login_uneven :
    (render? loginMatrix).map (fun text => splitAtChars (· == '\n') text.toList) =
      some ["Feature | Core    ".toList,
        "--------|---------".toList,
        "=== AUTH ==========".toList,
        "  Login | PASS    ".toList, []] ∧
    width (Folder.banner "auth") + 5 ≤ "Feature | Core    ".toList.length ∧
    "=== AUTH ==========".toList.length ≠ "Feature | Core    ".toList.length := by
  decide

end SpecCoverage.Table
