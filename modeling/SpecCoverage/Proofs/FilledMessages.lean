-- SUMMARY: Messages are their templates filled in at once just when no value shows the placeholder of another argument.
import SpecCoverage.Proofs.Order
import SpecCoverage.Proofs.Templates

/-!
# Messages filled in at once

A message should be its template with every slot filled in at once. But arguments are filled in one
after the other, so a value in which a later argument finds its placeholder is changed again. As
long as values open no such placeholder, the message is as it should be. For arguments with words as
names this is exact: each value is searched for the placeholders of all later arguments, and all
messages are as they should be, in every order of the arguments, just when no value that some
template shows has the placeholder of another argument in it.
-/
namespace SpecCoverage.Message

open Text

-- ---------------------------------------------------------------------------
-- Names
-- ---------------------------------------------------------------------------

/-- Arguments whose names can be told apart. -/
structure NamesApart (arguments : List (String × String)) : Prop where
  nodup : (arguments.map Prod.fst).Nodup
  braceless : ∀ a ∈ arguments, Braceless a.1

namespace NamesApart

variable {arguments arguments' : List (String × String)} {a b : String × String} {name : String}

theorem perm (h : NamesApart arguments) (hperm : arguments'.Perm arguments) :
    NamesApart arguments' where
  nodup := ((hperm.map Prod.fst).nodup_iff).2 h.nodup
  braceless a ha := h.braceless a (hperm.mem_iff.1 ha)

theorem eq_of_name_eq (h : NamesApart arguments) (ha : a ∈ arguments) (hb : b ∈ arguments)
    (hab : a.1 = b.1) : a = b :=
  List.inj_on_of_nodup_map h.nodup ha hb hab

theorem find?_eq (h : NamesApart arguments) (ha : a ∈ arguments) :
    arguments.find? (·.1 = a.1) = some a := by
  cases hfind : arguments.find? (·.1 = a.1) with
  | none => exact absurd (decide_eq_true rfl) (List.find?_eq_none.1 hfind a ha)
  | some b =>
    have hba : b.1 = a.1 := by simpa using List.find?_some hfind
    rw [h.eq_of_name_eq (List.mem_of_find?_eq_some hfind) ha hba]

theorem valueFor_eq (h : NamesApart arguments) (ha : a ∈ arguments) :
    valueFor arguments a.1 = a.2 :=
  valueFor_of_find?_eq_some (h.find?_eq ha)

theorem valueFor_of_perm (h : NamesApart arguments) (hperm : arguments'.Perm arguments)
    (name : String) : valueFor arguments' name = valueFor arguments name := by
  rw [valueFor, valueFor, find?_eq_of_perm hperm]
  intro a ha b hb hname hname'
  have hab : a.1 = b.1 := (of_decide_eq_true hname).trans (of_decide_eq_true hname').symm
  exact (h.perm hperm).eq_of_name_eq ha hb hab

end NamesApart

-- ---------------------------------------------------------------------------
-- Values that open no placeholder
-- ---------------------------------------------------------------------------

/-- Does the text have `p` in it, or end with a beginning of `p`? -/
def Opens (p s : List Char) : Prop :=
  p <:+: s ∨ ∃ u ∈ s.tails, u ≠ [] ∧ u <+: p

instance (p s : List Char) : Decidable (Opens p s) :=
  inferInstanceAs (Decidable (_ ∨ _))

/-- The value of the one argument does not open the placeholder of the other. -/
def Unopened (a b : String × String) : Prop :=
  ¬ Opens (placeholder b.1).toList a.2.toList

instance (a b : String × String) : Decidable (Unopened a b) :=
  inferInstanceAs (Decidable (¬ _))

theorem Unopened.fill_eq {a b : String × String} (h : Unopened a b) : fill a.2 b = a.2 := by
  refine String.toList_inj.1 ?_
  rw [toList_fill, replace_of_not_infix fun hin => h (.inl hin)]

theorem Unopened.not_leads {a b : String × String} (h : Unopened a b) {u t : List Char}
    (hu : u <:+ a.2.toList) (hne : u ≠ []) : ¬ (placeholder b.1).toList <+: u ++ t := by
  intro hpre
  obtain hwhole | hpart := List.prefix_or_prefix_of_prefix hpre (List.prefix_append u t)
  · exact h (.inl (hwhole.isInfix.trans hu.isInfix))
  · exact h (.inr ⟨u, (List.mem_tails u _).2 hu, hne, hpart⟩)

theorem staysWithin_of_unopened {done : List (String × String)} {a : String × String}
    (h : ∀ b ∈ done, Unopened b a) : StaysWithin done a :=
  fun b hb _ _ _ hu hne hpre => absurd hpre ((h b hb).not_leads hu hne)

/-- Arguments whose values open no placeholder of a later one come to stand beside each other. -/
theorem foldl_fill_of_unopened {ps : List Piece} (hcut : WellCut ps)
    (rest done : List (String × String)) (hnames : ∀ a ∈ rest, Braceless a.1)
    (h : (done ++ rest).Pairwise Unopened) :
    rest.foldl fill (String.ofList (written done ps)) =
      String.ofList (written (done ++ rest) ps) := by
  induction rest generalizing done with
  | nil => rw [List.foldl_nil, List.append_nil]
  | cons a rest ih =>
    obtain ⟨ha, hrest⟩ := List.forall_mem_cons.1 hnames
    have hdone : ∀ b ∈ done, Unopened b a :=
      fun b hb => (List.pairwise_append.1 h).2.2 b hb a (List.mem_cons_self ..)
    have hrefill : refill done a = done ++ [a] := by
      have hsame : ∀ b ∈ done, (b.1, fill b.2 a) = b := fun b hb => by rw [(hdone b hb).fill_eq]
      rw [refill, List.map_congr_left hsame, List.map_id']
    have hstep := fill_written hcut ha (staysWithin_of_unopened hdone)
    have happend : done ++ a :: rest = done ++ [a] ++ rest := by
      rw [List.append_assoc, List.singleton_append]
    rw [happend] at h ⊢
    rw [List.foldl_cons, hstep, hrefill, ih (done ++ [a]) hrest h]

-- ---------------------------------------------------------------------------
-- Names that are words
-- ---------------------------------------------------------------------------

/-- Names without blanks and colons, which end at every slot of a template. -/
def IsWord (name : String) : Prop :=
  ' ' ∉ name.toList ∧ ':' ∉ name.toList

instance (name : String) : Decidable (IsWord name) :=
  inferInstanceAs (Decidable (_ ∧ _))

theorem IsWord.not_mem_placeholder {name : String} (h : IsWord name) {c : Char}
    (hc : c ∈ [' ', ':']) : c ∉ (placeholder name).toList := by
  rw [toList_placeholder]
  simp only [List.mem_cons, List.not_mem_nil, or_false] at hc
  obtain rfl | rfl := hc
  · simp [h.1]
  · simp [h.2]

theorem IsWord.staysWithin {a : String × String} (h : IsWord a.1)
    (done : List (String × String)) : StaysWithin done a := by
  intro b _ qs hends u _ _ hpre
  match qs, hends with
  | [], _ => rwa [written_nil, List.append_nil] at hpre
  | .literal (c :: s) :: qs, hc =>
    rw [written_literal, List.cons_append] at hpre
    exact prefix_of_prefix_append_cons (h.not_mem_placeholder hc) hpre

/-- The arguments with each value as the later arguments leave it. -/
def settle : List (String × String) → List (String × String)
  | [] => []
  | a :: rest => (a.1, rest.foldl fill a.2) :: settle rest

/-- Filled in one after the other, the arguments show as they settle. -/
theorem foldl_fill_of_words {ps : List Piece} (hcut : WellCut ps)
    (rest done : List (String × String)) (hnames : ∀ a ∈ rest, Braceless a.1)
    (hwords : ∀ a ∈ rest, IsWord a.1) :
    rest.foldl fill (String.ofList (written done ps)) =
      String.ofList
        (written (done.map (fun b => (b.1, rest.foldl fill b.2)) ++ settle rest) ps) := by
  induction rest generalizing done with
  | nil => simp [settle]
  | cons a rest ih =>
    obtain ⟨ha, hrest⟩ := List.forall_mem_cons.1 hnames
    obtain ⟨hword, hwords⟩ := List.forall_mem_cons.1 hwords
    rw [List.foldl_cons, fill_written hcut ha (hword.staysWithin done), ih _ hrest hwords]
    simp [refill, settle, Function.comp_def]

-- ---------------------------------------------------------------------------
-- Values that stay as they are
-- ---------------------------------------------------------------------------

/-- Is the value of the one argument the same with the other argument filled in? Either it does not
have the placeholder in it, or the placeholder is put in the place of itself. -/
def Kept (a b : String × String) : Prop :=
  ¬ (placeholder b.1).toList <:+: a.2.toList ∨ b.2 = placeholder b.1

instance (a b : String × String) : Decidable (Kept a b) :=
  inferInstanceAs (Decidable (_ ∨ _))

theorem fill_eq_self_iff {a b : String × String} : fill a.2 b = a.2 ↔ Kept a b := by
  rw [← String.toList_inj, toList_fill, replace_eq_self_iff (placeholder_ne_nil b.1),
    String.toList_inj, Kept]

theorem valueFor_cons (a : String × String) (rest : List (String × String)) (name : String) :
    valueFor (a :: rest) name = if a.1 = name then a.2 else valueFor rest name := by
  unfold valueFor
  by_cases h : a.1 = name <;> simp [h]

/-- The value of an argument settles to what the arguments behind it make of it. -/
theorem valueFor_settle_append {before after : List (String × String)} {a : String × String}
    (h : ∀ b ∈ before, b.1 ≠ a.1) :
    valueFor (settle (before ++ a :: after)) a.1 = after.foldl fill a.2 := by
  induction before with
  | nil => rw [List.nil_append, settle, valueFor_cons, if_pos rfl]
  | cons b before ih =>
    obtain ⟨hb, hbefore⟩ := List.forall_mem_cons.1 h
    rw [List.cons_append, settle, valueFor_cons, if_neg hb, ih hbefore]

theorem foldl_fill_of_kept {a : String × String} {rest : List (String × String)}
    (h : ∀ b ∈ rest, Kept a b) : rest.foldl fill a.2 = a.2 := by
  induction rest with
  | nil => rfl
  | cons b rest ih =>
    obtain ⟨hb, hrest⟩ := List.forall_mem_cons.1 h
    rw [List.foldl_cons, fill_eq_self_iff.2 hb, ih hrest]

theorem valueFor_settle {arguments : List (String × String)} {name : String}
    (hname : name ∈ slotNames)
    (h : arguments.Pairwise fun a b => a.1 ∈ slotNames → Kept a b) :
    valueFor (settle arguments) name = valueFor arguments name := by
  induction arguments with
  | nil => rfl
  | cons a rest ih =>
    obtain ⟨ha, hrest⟩ := List.pairwise_cons.1 h
    rw [settle, valueFor_cons, valueFor_cons, ih hrest]
    split
    · rename_i heq
      exact foldl_fill_of_kept fun b hb => ha b hb (heq ▸ hname)
    · rfl

-- ---------------------------------------------------------------------------
-- What messages show
-- ---------------------------------------------------------------------------

section

variable {x y : List (String × String)}

theorem valueFor_eq_of_written_eq {before after : List Piece} {name : String}
    (hbefore : written x before = written y before) (hafter : written x after = written y after)
    (h : written x (before ++ .slot name :: after) = written y (before ++ .slot name :: after)) :
    valueFor x name = valueFor y name := by
  simp only [written, List.flatMap_append, List.flatMap_cons] at h hbefore hafter
  rw [hbefore, hafter, List.append_cancel_left_eq, List.append_cancel_right_eq] at h
  exact String.toList_inj.1 h

/-- The messages of the catalog show the values of all slots. -/
theorem valueFor_eq_of_messages
    (h : ∀ key ∈ keys, written x (pieces (template key)) = written y (pieces (template key))) :
    ∀ name ∈ slotNames, valueFor x name = valueFor y name := by
  have hmessage (key : String) (ps : List Piece) (hkey : key ∈ keys)
      (hcut : pieces (template key) = ps) : written x ps = written y ps := hcut ▸ h key hkey
  have hversion : valueFor x "version" = valueFor y "version" := by
    have hshown := hmessage "main.version" ([.literal "ud-coverage ".toList] ++ [.slot "version"])
      (by decide) (by decide +kernel)
    exact valueFor_eq_of_written_eq rfl rfl hshown
  have hpath : valueFor x "path" = valueFor y "path" := by
    have hshown := hmessage "workspace.not_a_directory"
      ([.literal "Workspace ".toList] ++ .slot "path" :: [.literal " is not a directory".toList])
      (by decide) (by decide +kernel)
    exact valueFor_eq_of_written_eq rfl rfl hshown
  have herror : valueFor x "error" = valueFor y "error" := by
    have hshown := hmessage "report.failed"
      ([.literal "Coverage report failed: ".toList] ++ [.slot "error"])
      (by decide) (by decide +kernel)
    exact valueFor_eq_of_written_eq rfl rfl hshown
  -- The other two slots stand beside one of these.
  have hformat : valueFor x "format" = valueFor y "format" := by
    have hshown := hmessage "report.written"
      ([] ++ .slot "format" :: [.literal " report generated: ".toList, .slot "path"])
      (by decide) (by decide +kernel)
    refine valueFor_eq_of_written_eq rfl ?_ hshown
    rw [written_literal, written_literal, written_slot, written_slot, hpath, written_nil,
      written_nil]
  have hstream : valueFor x "stream" = valueFor y "stream" := by
    have hshown := hmessage "output.write_failed"
      ([.literal "Failed to write to ".toList] ++
        .slot "stream" :: [.literal ": ".toList, .slot "error"])
      (by decide) (by decide +kernel)
    refine valueFor_eq_of_written_eq rfl ?_ hshown
    rw [written_literal, written_literal, written_slot, written_slot, herror, written_nil,
      written_nil]
  intro name hname
  simp only [slotNames, List.mem_cons, List.not_mem_nil, or_false] at hname
  obtain rfl | rfl | rfl | rfl | rfl := hname
  · exact hversion
  · exact hpath
  · exact herror
  · exact hformat
  · exact hstream

end

-- ---------------------------------------------------------------------------
-- Messages
-- ---------------------------------------------------------------------------

/-- The template of a key with all arguments filled in at once. -/
def filledAtOnce (key : String) (arguments : List (String × String)) : String :=
  String.ofList (written arguments (pieces (template key)))

/-- A message is its template with all arguments filled in at once, in whatever order they are
given. -/
structure FillsAtOnce (key : String) (arguments : List (String × String)) : Prop where
  filled : translate key arguments = filledAtOnce key arguments
  unordered : ∀ arguments', arguments'.Perm arguments →
    translate key arguments' = translate key arguments

variable {key : String} {arguments : List (String × String)}

theorem template_eq (hkey : key ∈ keys) :
    template key = String.ofList (written [] (pieces (template key))) := by
  rw [(template_cut key hkey).2, String.ofList_toList]

theorem translate_of_unopened (hkey : key ∈ keys) (h : NamesApart arguments)
    (hunopened : arguments.Pairwise Unopened) :
    translate key arguments = filledAtOnce key arguments := by
  change arguments.foldl fill (template key) = filledAtOnce key arguments
  rw [template_eq hkey, foldl_fill_of_unopened (template_cut key hkey).1 arguments []
    h.braceless hunopened, List.nil_append, filledAtOnce]

theorem translate_of_words (hkey : key ∈ keys) (h : NamesApart arguments)
    (hwords : ∀ a ∈ arguments, IsWord a.1) :
    translate key arguments = filledAtOnce key (settle arguments) := by
  change arguments.foldl fill (template key) = filledAtOnce key (settle arguments)
  rw [template_eq hkey, foldl_fill_of_words (template_cut key hkey).1 arguments []
    h.braceless hwords, List.map_nil, List.nil_append, filledAtOnce]

theorem filledAtOnce_of_perm (hkey : key ∈ keys) (h : NamesApart arguments)
    {arguments' : List (String × String)} (hperm : arguments'.Perm arguments) :
    filledAtOnce key arguments' = filledAtOnce key arguments := by
  rw [filledAtOnce, filledAtOnce,
    written_congr (template_cut key hkey).1 fun name _ => h.valueFor_of_perm hperm name]

/-- What fills in all at once in every order does not depend on the order. -/
theorem FillsAtOnce.of_forall_perm (hkey : key ∈ keys) (h : NamesApart arguments)
    (hfilled : ∀ arguments', arguments'.Perm arguments →
      translate key arguments' = filledAtOnce key arguments') : FillsAtOnce key arguments where
  filled := hfilled arguments (.refl arguments)
  unordered arguments' hperm := by
    rw [hfilled arguments' hperm, hfilled arguments (.refl arguments),
      filledAtOnce_of_perm hkey h hperm]

/-- What holds of all pairs of different arguments holds in every order. -/
theorem NamesApart.pairwise {R : String × String → String × String → Prop}
    (h : NamesApart arguments)
    (hpairs : ∀ a ∈ arguments, ∀ b ∈ arguments, b ≠ a → R a b)
    {arguments' : List (String × String)} (hperm : arguments'.Perm arguments) :
    arguments'.Pairwise R := by
  have hnodup : arguments'.Nodup := (List.Nodup.of_map _ h.nodup).perm hperm.symm
  exact List.Pairwise.imp_of_mem (fun ha hb hne =>
    hpairs _ (hperm.mem_iff.1 ha) _ (hperm.mem_iff.1 hb) (Ne.symm hne)) hnodup

/-- No value that a template shows has the placeholder of another argument in it. -/
def ValuesKept (arguments : List (String × String)) : Prop :=
  ∀ a ∈ arguments, a.1 ∈ slotNames → ∀ b ∈ arguments, b ≠ a → Kept a b

theorem fillsAtOnce_of_valuesKept (hkey : key ∈ keys) (h : NamesApart arguments)
    (hwords : ∀ a ∈ arguments, IsWord a.1) (hkept : ValuesKept arguments) :
    FillsAtOnce key arguments := by
  refine .of_forall_perm hkey h fun arguments' hperm => ?_
  have hwords' : ∀ a ∈ arguments', IsWord a.1 := fun a ha => hwords a (hperm.mem_iff.1 ha)
  have hpairs : arguments'.Pairwise fun a b => a.1 ∈ slotNames → Kept a b :=
    h.pairwise (fun a ha b hb hne hshown => hkept a ha hshown b hb hne) hperm
  rw [translate_of_words hkey (h.perm hperm) hwords', filledAtOnce, filledAtOnce,
    written_congr (template_cut key hkey).1 fun name hname => valueFor_settle hname hpairs]

theorem exists_perm_append_pair {α : Type} [DecidableEq α] {xs : List α} {a b : α}
    (ha : a ∈ xs) (hb : b ∈ xs) (hne : b ≠ a) : ∃ rest, (rest ++ [a, b]).Perm xs := by
  have hb' : b ∈ xs.erase a := (List.mem_erase_of_ne hne).2 hb
  refine ⟨(xs.erase a).erase b, ?_⟩
  exact List.perm_append_comm.trans
    (((List.perm_cons_erase hb').symm.cons a).trans (List.perm_cons_erase ha).symm)

/-- With the two arguments in the last places, the message shows what the one makes of the other. -/
theorem valuesKept_of_fillsAtOnce (h : NamesApart arguments)
    (hwords : ∀ a ∈ arguments, IsWord a.1) (hfills : ∀ key ∈ keys, FillsAtOnce key arguments) :
    ValuesKept arguments := by
  intro a ha hshown b hb hne
  obtain ⟨rest, hperm⟩ := exists_perm_append_pair ha hb hne
  have h' := h.perm hperm
  have hwords' : ∀ c ∈ rest ++ [a, b], IsWord c.1 := fun c hc => hwords c (hperm.mem_iff.1 hc)
  have hmessages : ∀ key ∈ keys,
      written (settle (rest ++ [a, b])) (pieces (template key)) =
        written (rest ++ [a, b]) (pieces (template key)) := by
    intro key hkey
    have hfilled : filledAtOnce key (settle (rest ++ [a, b])) = filledAtOnce key (rest ++ [a, b]) :=
      calc filledAtOnce key (settle (rest ++ [a, b]))
        _ = translate key (rest ++ [a, b]) := (translate_of_words hkey h' hwords').symm
        _ = translate key arguments := (hfills key hkey).unordered _ hperm
        _ = filledAtOnce key arguments := (hfills key hkey).filled
        _ = filledAtOnce key (rest ++ [a, b]) := (filledAtOnce_of_perm hkey h hperm).symm
    exact String.ofList_injective hfilled
  have hapart : (rest ++ [a, b]).Pairwise fun c d => c.1 ≠ d.1 := List.pairwise_map.1 h'.nodup
  have hbefore : ∀ c ∈ rest, c.1 ≠ a.1 :=
    fun c hc => (List.pairwise_append.1 hapart).2.2 c hc a (List.mem_cons_self ..)
  have hvalue := valueFor_eq_of_messages hmessages a.1 hshown
  rw [valueFor_settle_append hbefore, h'.valueFor_eq (by simp)] at hvalue
  exact fill_eq_self_iff.1 hvalue

/-- A message fills in all its arguments at once if no value opens the placeholder of a later
argument, and does so in every order if no value opens the placeholder of another argument. Where
names are words, all messages do so in every order just when no value that is shown has the
placeholder of another argument in it. -/
theorem fillsAtOnce_iff (h : NamesApart arguments) :
    (arguments.Pairwise Unopened →
        ∀ key ∈ keys, translate key arguments = filledAtOnce key arguments) ∧
      ((∀ a ∈ arguments, ∀ b ∈ arguments, b ≠ a → Unopened a b) →
        ∀ key ∈ keys, FillsAtOnce key arguments) ∧
      ((∀ a ∈ arguments, IsWord a.1) →
        ((∀ key ∈ keys, FillsAtOnce key arguments) ↔ ValuesKept arguments)) := by
  refine ⟨fun hunopened key hkey => translate_of_unopened hkey h hunopened,
    fun hunopened key hkey => ?_, fun hwords => ⟨valuesKept_of_fillsAtOnce h hwords,
      fun hkept key hkey => fillsAtOnce_of_valuesKept hkey h hwords hkept⟩⟩
  exact .of_forall_perm hkey h fun arguments' hperm =>
    translate_of_unopened hkey (h.perm hperm) (h.pairwise hunopened hperm)

/-- A path with braces that are no placeholder. -/
def teamPath : List (String × String) :=
  [("path", "/{team}"), ("error", "Permission denied")]

theorem fillsAtOnce_iff_teamPath :
    NamesApart teamPath ∧ teamPath.Pairwise Unopened ∧ (∀ a ∈ teamPath, IsWord a.1) ∧
      ValuesKept teamPath ∧ FillsAtOnce "report.file_failed" teamPath := by
  have hnames : NamesApart teamPath := ⟨by decide, by decide +kernel⟩
  have hunopened : ∀ a ∈ teamPath, ∀ b ∈ teamPath, b ≠ a → Unopened a b := by decide +kernel
  have hwords : ∀ a ∈ teamPath, IsWord a.1 := by decide +kernel
  have hfills := (fillsAtOnce_iff hnames).2.1 hunopened
  exact ⟨hnames, hnames.pairwise hunopened (.refl _), hwords,
    ((fillsAtOnce_iff hnames).2.2 hwords).1 hfills, hfills _ (by decide)⟩

/-- A path that reads like the placeholder of the error. -/
def errorPath : List (String × String) :=
  [("path", "{error}"), ("error", "Is a directory (os error 21)")]

/-- The error shows twice where the path comes first, and once where it comes last. -/
theorem not_fillsAtOnce_errorPath :
    NamesApart errorPath ∧ "report.file_failed" ∈ keys ∧
      translate "report.file_failed" errorPath =
        "Failed to write report to Is a directory (os error 21): Is a directory (os error 21)" ∧
      filledAtOnce "report.file_failed" errorPath =
        "Failed to write report to {error}: Is a directory (os error 21)" ∧
      translate "report.file_failed" errorPath.reverse =
        "Failed to write report to {error}: Is a directory (os error 21)" ∧
      ¬ FillsAtOnce "report.file_failed" errorPath := by
  have hshown : translate "report.file_failed" errorPath =
      "Failed to write report to Is a directory (os error 21): Is a directory (os error 21)" := by
    decide +kernel
  have hright : filledAtOnce "report.file_failed" errorPath =
      "Failed to write report to {error}: Is a directory (os error 21)" := by
    decide +kernel
  refine ⟨⟨by decide, by decide +kernel⟩, by decide, hshown, hright, by decide +kernel,
    fun hfills => ?_⟩
  have heq := hfills.filled
  rw [hshown, hright] at heq
  exact absurd heq (by decide)

end SpecCoverage.Message
