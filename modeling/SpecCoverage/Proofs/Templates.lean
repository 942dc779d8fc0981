-- SUMMARY: Message templates as text and slots, and what filling in one argument does to them.
import SpecCoverage.Message
import SpecCoverage.Proofs.Replacing

/-!
# Templates

A template is text with slots, each written as the placeholder of its name. `written` says what it
is with a value in every slot at once: no value is looked into, and a slot without an argument shows
its placeholder. Filling in a further argument keeps to this as long as its placeholder neither
stands in a value that is already there nor reaches out of one (`replace_written`).
-/
namespace SpecCoverage.Message

open Text

-- ---------------------------------------------------------------------------
-- Pieces
-- ---------------------------------------------------------------------------

/-- A piece of a template. -/
inductive Piece where
  | literal (s : List Char)
  /-- The place of an argument. -/
  | slot (name : String)
  deriving DecidableEq

/-- The value of the argument of a name, or the placeholder if there is none. -/
def valueFor (arguments : List (String × String)) (name : String) : String :=
  ((arguments.find? (·.1 = name)).map Prod.snd).getD (placeholder name)

def Piece.written (arguments : List (String × String)) : Piece → List Char
  | .literal s => s
  | .slot name => (valueFor arguments name).toList

/-- The text of pieces, with the values of the arguments in their slots. -/
def written (arguments : List (String × String)) (ps : List Piece) : List Char :=
  ps.flatMap (Piece.written arguments)

@[simp] theorem written_nil (arguments : List (String × String)) : written arguments [] = [] := rfl

@[simp] theorem written_literal (arguments : List (String × String)) (s : List Char)
    (ps : List Piece) : written arguments (.literal s :: ps) = s ++ written arguments ps := rfl

@[simp] theorem written_slot (arguments : List (String × String)) (name : String)
    (ps : List Piece) :
    written arguments (.slot name :: ps) =
      (valueFor arguments name).toList ++ written arguments ps := rfl

/-- The literal that has been read, last character first. -/
def literalOf (seen : List Char) : List Piece :=
  if seen = [] then [] else [.literal seen.reverse]

/-- Cut a text into pieces. What stands between braces is the name of a slot. -/
def piecesAfter (inside : Bool) (seen : List Char) : List Char → List Piece
  | [] => literalOf seen
  | c :: s =>
    if c = '{' then literalOf seen ++ piecesAfter true [] s
    else if c = '}' ∧ inside then .slot (String.ofList seen.reverse) :: piecesAfter false [] s
    else piecesAfter inside (c :: seen) s

def pieces (text : String) : List Piece :=
  piecesAfter false [] text.toList

/-- The names of slots in the catalog. -/
def slotNames : List String := ["version", "path", "error", "format", "stream"]

/-- Does a slot end before these pieces, whatever stands in it? A blank and a colon cannot be part
of a name that is a word. -/
def EndsSlot : List Piece → Prop
  | [] => True
  | .literal (c :: _) :: _ => c ∈ [' ', ':']
  | _ => False

/-- Literals open no brace, and slots have known names and end. -/
def WellCut : List Piece → Prop
  | [] => True
  | .literal s :: ps => '{' ∉ s ∧ WellCut ps
  | .slot name :: ps => name ∈ slotNames ∧ EndsSlot ps ∧ WellCut ps

instance : DecidablePred EndsSlot
  | [] => isTrue trivial
  | .literal (c :: _) :: _ => inferInstanceAs (Decidable (c ∈ [' ', ':']))
  | .literal [] :: _ => isFalse id
  | .slot _ :: _ => isFalse id

instance decidableWellCut : DecidablePred WellCut
  | [] => isTrue trivial
  | .literal s :: ps =>
    have := decidableWellCut ps
    inferInstanceAs (Decidable ('{' ∉ s ∧ WellCut ps))
  | .slot name :: ps =>
    have := decidableWellCut ps
    inferInstanceAs (Decidable (name ∈ slotNames ∧ EndsSlot ps ∧ WellCut ps))

def keys : List String := catalog.map Prod.fst

/-- The template of a key. -/
def template (key : String) : String :=
  (catalog.lookup key).getD key

/-- The templates of the catalog are made of such pieces. -/
theorem template_cut : ∀ key ∈ keys, WellCut (pieces (template key)) ∧
    written [] (pieces (template key)) = (template key).toList := by
  decide +kernel

theorem written_congr {x y : List (String × String)} {ps : List Piece} (hcut : WellCut ps)
    (h : ∀ name ∈ slotNames, valueFor x name = valueFor y name) : written x ps = written y ps := by
  induction ps with
  | nil => rfl
  | cons piece ps ih =>
    cases piece with
    | literal s => rw [written_literal, written_literal, ih hcut.2]
    | slot name => rw [written_slot, written_slot, h name hcut.1, ih hcut.2.2]

-- ---------------------------------------------------------------------------
-- Placeholders
-- ---------------------------------------------------------------------------

/-- A name by which a placeholder can be told from the text around it. -/
def Braceless (name : String) : Prop :=
  '{' ∉ name.toList ∧ '}' ∉ name.toList

instance (name : String) : Decidable (Braceless name) :=
  inferInstanceAs (Decidable (_ ∧ _))

theorem braceless_of_mem_slotNames : ∀ name ∈ slotNames, Braceless name := by
  decide +kernel

theorem toList_placeholder (name : String) :
    (placeholder name).toList = '{' :: (name.toList ++ ['}']) := by
  simp [placeholder]

theorem placeholder_ne_nil (name : String) : (placeholder name).toList ≠ [] := by
  rw [toList_placeholder]
  exact List.cons_ne_nil _ _

/-- A placeholder starts with its only opening brace. -/
theorem exists_eq_brace_cons {name : String} {u t : List Char} (hu : u ≠ [])
    (h : (placeholder name).toList <+: u ++ t) : ∃ v, u = '{' :: v := by
  obtain ⟨c, v, rfl⟩ := List.exists_cons_of_ne_nil hu
  rw [toList_placeholder, List.cons_append, List.cons_prefix_cons] at h
  exact ⟨v, by rw [h.1]⟩

theorem placeholder_prefix_iff {m n : String} (hm : Braceless m) (hn : Braceless n)
    {t : List Char} : (placeholder m).toList <+: (placeholder n).toList ++ t ↔ m = n := by
  constructor
  · rintro ⟨r, h⟩
    simp only [toList_placeholder, List.cons_append, List.append_assoc, List.nil_append,
      List.cons.injEq, true_and] at h
    -- The name goes up to the first closing brace.
    have hfront {name : String} (hname : Braceless name) (s : List Char) :
        (name.toList ++ '}' :: s).takeWhile (· ≠ '}') = name.toList := by
      have hall : ∀ c ∈ name.toList, decide (c ≠ '}') = true :=
        fun c hc => decide_eq_true fun hbrace => hname.2 (hbrace ▸ hc)
      rw [List.takeWhile_append_of_pos hall, List.takeWhile_cons_of_neg (by simp),
        List.append_nil]
    have htake := congrArg (List.takeWhile (· ≠ '}')) h
    rw [hfront hm, hfront hn] at htake
    exact String.toList_inj.1 htake
  · rintro rfl
    exact List.prefix_append _ _

/-- Within a placeholder another one can only stand as the whole. -/
theorem eq_of_placeholder_leads {m n : String} (hm : Braceless m) (hn : Braceless n)
    {u t : List Char} (hu : u <:+ (placeholder n).toList) (hne : u ≠ [])
    (h : (placeholder m).toList <+: u ++ t) : m = n := by
  obtain ⟨v, rfl⟩ := exists_eq_brace_cons hne h
  rw [toList_placeholder] at hu
  obtain hwhole | hwithin := List.suffix_cons_iff.1 hu
  · rw [hwhole, ← toList_placeholder] at h
    exact (placeholder_prefix_iff hm hn).1 h
  · have hmem : '{' ∈ n.toList ++ ['}'] := hwithin.subset (List.mem_cons_self ..)
    exact absurd hmem (by simp [hn.1])

theorem replace_literal {name : String} {s : List Char} (hs : '{' ∉ s) (value t : List Char) :
    replace (placeholder name).toList value (s ++ t) =
      s ++ replace (placeholder name).toList value t := by
  refine replace_append_of_forall_not fun u hu hne h => ?_
  obtain ⟨v, rfl⟩ := exists_eq_brace_cons hne h
  exact hs (hu.subset (List.mem_cons_self ..))

theorem replace_placeholder {m n : String} (hm : Braceless m) (hn : Braceless n) (hmn : m ≠ n)
    (value t : List Char) :
    replace (placeholder m).toList value ((placeholder n).toList ++ t) =
      (placeholder n).toList ++ replace (placeholder m).toList value t :=
  replace_append_of_forall_not fun _ hu hne h =>
    hmn (eq_of_placeholder_leads hm hn hu hne h)

-- ---------------------------------------------------------------------------
-- Filling in an argument
-- ---------------------------------------------------------------------------

/-- What filling in an argument makes of the arguments that are already there: their values are
searched for its placeholder as well. -/
def refill (done : List (String × String)) (a : String × String) : List (String × String) :=
  done.map (fun b => (b.1, fill b.2 a)) ++ [a]

theorem valueFor_refill (done : List (String × String)) (a : String × String) (name : String) :
    valueFor (refill done a) name =
      ((done.find? (·.1 = name)).map fun b => fill b.2 a).getD
        (if a.1 = name then a.2 else placeholder name) := by
  have hmap : (done.map fun b => (b.1, fill b.2 a)).find? (·.1 = name) =
      (done.find? (·.1 = name)).map fun b => (b.1, fill b.2 a) := List.find?_map ..
  rw [valueFor, refill, List.find?_append, hmap]
  cases done.find? (·.1 = name) with
  | some b => rfl
  | none => by_cases h : a.1 = name <;> simp [h]

theorem valueFor_of_find?_eq_none {done : List (String × String)} {name : String}
    (h : done.find? (·.1 = name) = none) : valueFor done name = placeholder name := by
  rw [valueFor, h]
  rfl

theorem valueFor_of_find?_eq_some {done : List (String × String)} {name : String}
    {b : String × String} (h : done.find? (·.1 = name) = some b) : valueFor done name = b.2 := by
  rw [valueFor, h]
  rfl

theorem toList_fill (text : String) (a : String × String) :
    (fill text a).toList = replace (placeholder a.1).toList a.2.toList text.toList := by
  rw [fill, String.toList_ofList]

/-- The placeholder of an argument does not reach out of the values that are already there. -/
def StaysWithin (done : List (String × String)) (a : String × String) : Prop :=
  ∀ b ∈ done, ∀ qs, EndsSlot qs → ∀ u, u <:+ b.2.toList → u ≠ [] →
    (placeholder a.1).toList <+: u ++ written done qs → (placeholder a.1).toList <+: u

theorem replace_written {done : List (String × String)} {a : String × String} {ps : List Piece}
    (hcut : WellCut ps) (ha : Braceless a.1) (hwithin : StaysWithin done a) :
    replace (placeholder a.1).toList a.2.toList (written done ps) =
      written (refill done a) ps := by
  induction ps with
  | nil => rw [written_nil, written_nil, replace_nil]
  | cons piece ps ih =>
    cases piece with
    | literal s =>
      rw [written_literal, written_literal, replace_literal hcut.1, ih hcut.2]
    | slot name =>
      obtain ⟨hname, hends, hps⟩ := hcut
      rw [written_slot, written_slot, valueFor_refill]
      cases hfind : done.find? (·.1 = name) with
      | some b =>
        have hb : b ∈ done := List.mem_of_find?_eq_some hfind
        rw [valueFor_of_find?_eq_some hfind, Option.map_some, Option.getD_some, toList_fill,
          ← ih hps, replace_append (placeholder_ne_nil a.1) (hwithin b hb ps hends)]
      | none =>
        rw [valueFor_of_find?_eq_none hfind, Option.map_none, Option.getD_none]
        split
        · rename_i hslot
          rw [hslot, replace_append_self (placeholder_ne_nil name), ← hslot, ih hps]
        · rename_i hslot
          rw [replace_placeholder ha (braceless_of_mem_slotNames name hname) hslot, ih hps]

/-- Filling in an argument fills its slots and goes through the values of the other ones. -/
theorem fill_written {done : List (String × String)} {a : String × String} {ps : List Piece}
    (hcut : WellCut ps) (ha : Braceless a.1) (hwithin : StaysWithin done a) :
    fill (String.ofList (written done ps)) a = String.ofList (written (refill done a) ps) := by
  rw [fill, String.toList_ofList, replace_written hcut ha hwithin]

end SpecCoverage.Message
