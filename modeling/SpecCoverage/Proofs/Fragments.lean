-- SUMMARY: Written markup as its own text and inserted text, and when the inserted text is inert.
import SpecCoverage.Page.Markup

/-!
# Fragments of written markup

What is written for a tree is a sequence of fragments: text that the tree brings along itself, and
text that is put in. Inserted text is inert when it can neither open markup nor close the attribute
it stands in. Trees whose names come from a fixed vocabulary are written from the literals of this
vocabulary and inert text alone, whatever is inserted.
-/
namespace SpecCoverage

namespace Markup

-- ---------------------------------------------------------------------------
-- Inert text
-- ---------------------------------------------------------------------------

/-- What the five characters that mean something in markup are written as. -/
def entities : List (List Char) :=
  ["&amp;".toList, "&lt;".toList, "&gt;".toList, "&quot;".toList, "&#39;".toList]

/-- The characters that open or close markup or an attribute. -/
def delimiters : List Char := ['<', '>', '"', '\'']

/-- There is no delimiter in the text, and every ampersand starts an entity. -/
structure Inert (s : List Char) : Prop where
  delimiter : ∀ c ∈ s, c ∉ delimiters
  ampersand : ∀ t, '&' :: t <:+ s → ∃ e ∈ entities, e <+: '&' :: t

namespace Inert

theorem nil : Inert [] where
  delimiter := by simp
  ampersand := by simp

theorem append {s t : List Char} (hs : Inert s) (ht : Inert t) : Inert (s ++ t) where
  delimiter c hc := (List.mem_append.1 hc).elim (hs.delimiter c) (ht.delimiter c)
  ampersand u hu := by
    obtain ⟨before, happend⟩ := hu
    -- the ampersand stands on one of the two sides
    obtain ⟨front, rfl, hu⟩ | ⟨back, -, hu⟩ := List.append_eq_append_iff.1 happend
    · cases front with
      | nil => exact ht.ampersand u ⟨[], by simpa using hu⟩
      | cons c front =>
        obtain ⟨rfl, rfl⟩ := List.cons.inj hu
        obtain ⟨e, he, h⟩ := hs.ampersand front (List.suffix_append ..)
        exact ⟨e, he, h.trans (List.prefix_append ('&' :: front) t)⟩
    · exact ht.ampersand u ⟨back, hu.symm⟩

/-- Text without delimiters and ampersands. -/
theorem of_plain {s : List Char} (h : ∀ c ∈ s, c ∉ '&' :: delimiters) : Inert s where
  delimiter c hc := fun hd => h c hc (List.mem_cons_of_mem _ hd)
  ampersand _ ht := absurd (List.mem_cons_self ..) (h '&' (ht.subset (List.mem_cons_self ..)))

theorem of_all {s : List Char} (h : s.all (· ∉ '&' :: delimiters) = true) : Inert s :=
  of_plain fun c hc => of_decide_eq_true (List.all_eq_true.1 h c hc)

/-- After the ampersand of an entity there is neither another one nor a delimiter. -/
theorem of_entity {e : List Char} (he : e ∈ entities) : Inert e := by
  have hentities : ∀ e ∈ entities,
      e.head? = some '&' ∧ e.tail.all (· ∉ '&' :: delimiters) = true := by
    decide
  obtain ⟨hhead, htail⟩ := hentities e he
  cases e with
  | nil => cases hhead
  | cons c r =>
    obtain rfl := Option.some.inj hhead
    have hr : Inert r := of_all htail
    exact {
      delimiter := List.forall_mem_cons.2 ⟨by decide, hr.delimiter⟩
      ampersand := by
        intro t ht
        obtain ht | ht := List.suffix_cons_iff.1 ht
        · exact ⟨'&' :: r, he, ht ▸ List.prefix_rfl⟩
        · exact hr.ampersand t ht }

end Inert

theorem inert_escapeChar (c : Char) : Inert (escapeChar c) := by
  unfold escapeChar
  split
  · exact .of_entity (by decide)
  · exact .of_entity (by decide)
  · exact .of_entity (by decide)
  · exact .of_entity (by decide)
  · exact .of_entity (by decide)
  · refine .of_plain fun d hd => ?_
    obtain rfl := List.mem_singleton.1 hd
    simp_all [delimiters]

/-- Escaped text is inert, whatever is escaped. -/
theorem inert_escapeChars (s : List Char) : Inert (escapeChars s) := by
  induction s with
  | nil => exact .nil
  | cons c s ih => exact (inert_escapeChar c).append ih

theorem inert_escape (s : String) : Inert (escape s).toList := by
  simpa [escape] using inert_escapeChars s.toList

-- ---------------------------------------------------------------------------
-- Fragments
-- ---------------------------------------------------------------------------

/-- A stretch of written markup. -/
inductive Fragment where
  /-- Text of the tree itself. -/
  | own (s : String)
  /-- Text that is put in, as it is written. -/
  | inserted (s : String)
  deriving DecidableEq

def Fragment.text : Fragment → String
  | .own s => s
  | .inserted s => s

/-- The text of fragments that follow each other. -/
def textOf (fs : List Fragment) : String :=
  String.join (fs.map Fragment.text)

@[simp] theorem textOf_nil : textOf [] = "" := rfl

@[simp] theorem textOf_cons (f : Fragment) (fs : List Fragment) :
    textOf (f :: fs) = f.text ++ textOf fs :=
  String.join_cons

@[simp] theorem textOf_append (fs gs : List Fragment) :
    textOf (fs ++ gs) = textOf fs ++ textOf gs := by
  simp [textOf, String.join_append]

end Markup

open Markup

/-- The value of an attribute is inserted between quotes of the tree. -/
def Attribute.fragments (a : Attribute) : List Fragment :=
  [.own (" " ++ a.name ++ "=\""), .inserted a.value.written, .own "\""]

theorem Attribute.textOf_fragments (a : Attribute) : textOf a.fragments = a.written := by
  simp [Attribute.fragments, Attribute.written, Fragment.text, String.append_assoc]

namespace Markup

/-- The fragments of the start tag of an element. -/
def startFragments (tag : String) (attributes : List Attribute) : List Fragment :=
  .own ("<" ++ tag) :: (attributes.flatMap Attribute.fragments ++ [.own ">"])

theorem textOf_startFragments (tag : String) (attributes : List Attribute) :
    textOf (startFragments tag attributes) = startTag tag attributes := by
  have h : textOf (attributes.flatMap Attribute.fragments) =
      String.join (attributes.map Attribute.written) := by
    induction attributes with
    | nil => rfl
    | cons a attributes ih => simp [ih, Attribute.textOf_fragments]
  simp [startFragments, startTag, Fragment.text, h, String.append_assoc]

mutual

/-- The fragments of a tree. Text is inserted; what is verbatim between tags is the tree's own. -/
def fragments : Markup → List Fragment
  | .value (.text s) => [.inserted (escape s)]
  | .value (.verbatim s) => [.own s]
  | .element tag attributes children =>
    startFragments tag attributes ++ (fragmentsOfAll children ++ [.own (endTag tag)])
  | .void tag attributes => startFragments tag attributes

def fragmentsOfAll : List Markup → List Fragment
  | [] => []
  | m :: ms => fragments m ++ fragmentsOfAll ms

end

mutual

theorem textOf_fragments (m : Markup) : textOf (fragments m) = String.join (pieces m) := by
  cases m with
  | value v => cases v <;> simp [fragments, pieces, Fragment.text, MarkupValue.written]
  | element tag attributes children =>
    simp [fragments, pieces, textOf_startFragments, textOf_fragmentsOfAll children,
      String.join_append, Fragment.text]
  | void tag attributes => simp [fragments, pieces, textOf_startFragments]

theorem textOf_fragmentsOfAll (ms : List Markup) :
    textOf (fragmentsOfAll ms) = String.join (piecesOfAll ms) := by
  cases ms with
  | nil => rfl
  | cons m ms =>
    simp [fragmentsOfAll, piecesOfAll, textOf_fragments m, textOf_fragmentsOfAll ms,
      String.join_append]

end

/-- What is written is the fragments one after the other. -/
theorem write_eq_textOf (ms : List Markup) : write ms = textOf (fragmentsOfAll ms) :=
  (textOf_fragmentsOfAll ms).symm

-- ---------------------------------------------------------------------------
-- Vocabularies
-- ---------------------------------------------------------------------------

/-- The names that trees use, and the texts that they bring along verbatim. -/
structure Vocabulary where
  tags : List String
  attributes : List String
  contents : List String

/-- All that trees of a vocabulary may write besides inserted text. -/
def Vocabulary.literals (v : Vocabulary) : List String :=
  ["\"", ">"] ++ v.tags.map ("<" ++ ·) ++ v.tags.map endTag ++
    v.attributes.map (" " ++ · ++ "=\"") ++ v.contents

theorem Vocabulary.quote_mem {v : Vocabulary} : "\"" ∈ v.literals := by
  simp [literals]

theorem Vocabulary.bracket_mem {v : Vocabulary} : ">" ∈ v.literals := by
  simp [literals]

theorem Vocabulary.startTag_mem {v : Vocabulary} {tag : String} (h : tag ∈ v.tags) :
    "<" ++ tag ∈ v.literals := by
  simp [literals, h]

theorem Vocabulary.endTag_mem {v : Vocabulary} {tag : String} (h : tag ∈ v.tags) :
    endTag tag ∈ v.literals := by
  have h : endTag tag ∈ v.tags.map endTag := List.mem_map_of_mem h
  simp only [literals, List.mem_append, h, true_or, or_true]

theorem Vocabulary.attribute_mem {v : Vocabulary} {name : String} (h : name ∈ v.attributes) :
    " " ++ name ++ "=\"" ∈ v.literals := by
  have h : " " ++ name ++ "=\"" ∈ v.attributes.map (" " ++ · ++ "=\"") := List.mem_map_of_mem h
  simp only [literals, List.mem_append, h, true_or, or_true]

theorem Vocabulary.content_mem {v : Vocabulary} {s : String} (h : s ∈ v.contents) :
    s ∈ v.literals :=
  List.mem_append_right _ h

/-- Own text is a literal of the vocabulary; inserted text is inert. -/
def Fragment.Harmless (v : Vocabulary) : Fragment → Prop
  | .own s => s ∈ v.literals
  | .inserted s => Inert s.toList

end Markup

/-- The name is in the vocabulary, and the value is inert as it is written. -/
def Attribute.Harmless (v : Vocabulary) (a : Attribute) : Prop :=
  a.name ∈ v.attributes ∧ Inert a.value.written.toList

theorem Attribute.harmless_fragments {v : Vocabulary} {a : Attribute} (h : a.Harmless v) :
    ∀ f ∈ a.fragments, f.Harmless v := by
  simp only [Attribute.fragments, List.forall_mem_cons]
  exact ⟨Vocabulary.attribute_mem h.1, h.2, Vocabulary.quote_mem, by simp⟩

namespace Markup

variable {v : Vocabulary}

/-- An attribute whose value is escaped only needs a name of the vocabulary. -/
@[simp] theorem harmless_attr {name value : String} :
    (attr name value).Harmless v ↔ name ∈ v.attributes :=
  ⟨And.left, fun h => ⟨h, inert_escape value⟩⟩

@[simp] theorem harmless_attrVerbatim {name value : String} :
    (attrVerbatim name value).Harmless v ↔ name ∈ v.attributes ∧ Inert value.toList :=
  .rfl

theorem harmless_startFragments {tag : String} {attributes : List Attribute} (ht : tag ∈ v.tags)
    (ha : ∀ a ∈ attributes, a.Harmless v) :
    ∀ f ∈ startFragments tag attributes, f.Harmless v := by
  intro f hf
  simp only [startFragments, List.mem_cons, List.mem_append, List.mem_flatMap, List.not_mem_nil,
    or_false] at hf
  obtain rfl | ⟨a, hmem, hf⟩ | rfl := hf
  · exact Vocabulary.startTag_mem ht
  · exact Attribute.harmless_fragments (ha a hmem) f hf
  · exact Vocabulary.bracket_mem

mutual

/-- The tree keeps to the vocabulary, and its verbatim attributes are inert. Its texts may be any. -/
def Harmless (v : Vocabulary) : Markup → Prop
  | .value (.text _) => True
  | .value (.verbatim s) => s ∈ v.contents
  | .element tag attributes children =>
    tag ∈ v.tags ∧ (∀ a ∈ attributes, a.Harmless v) ∧ HarmlessAll v children
  | .void tag attributes => tag ∈ v.tags ∧ ∀ a ∈ attributes, a.Harmless v

def HarmlessAll (v : Vocabulary) : List Markup → Prop
  | [] => True
  | m :: ms => Harmless v m ∧ HarmlessAll v ms

end

@[simp] theorem harmless_text {s : String} : Harmless v (text s) := by
  simp [text, Harmless]

@[simp] theorem harmless_verbatim {s : String} : Harmless v (verbatim s) ↔ s ∈ v.contents := by
  simp [verbatim, Harmless]

@[simp] theorem harmless_element {tag : String} {attributes : List Attribute}
    {children : List Markup} :
    Harmless v (.element tag attributes children) ↔
      tag ∈ v.tags ∧ (∀ a ∈ attributes, a.Harmless v) ∧ HarmlessAll v children := by
  simp [Harmless]

@[simp] theorem harmless_void {tag : String} {attributes : List Attribute} :
    Harmless v (.void tag attributes) ↔ tag ∈ v.tags ∧ ∀ a ∈ attributes, a.Harmless v := by
  simp [Harmless]

@[simp] theorem harmlessAll_nil : HarmlessAll v [] := by
  simp [HarmlessAll]

@[simp] theorem harmlessAll_cons {m : Markup} {ms : List Markup} :
    HarmlessAll v (m :: ms) ↔ Harmless v m ∧ HarmlessAll v ms := by
  simp [HarmlessAll]

theorem harmlessAll_iff {ms : List Markup} : HarmlessAll v ms ↔ ∀ m ∈ ms, Harmless v m := by
  induction ms with
  | nil => simp
  | cons m ms ih => simp [ih]

@[simp] theorem harmlessAll_append {ms ns : List Markup} :
    HarmlessAll v (ms ++ ns) ↔ HarmlessAll v ms ∧ HarmlessAll v ns := by
  simp only [harmlessAll_iff, List.forall_mem_append]

@[simp] theorem harmlessAll_flatMap {α : Type} {f : α → List Markup} {xs : List α} :
    HarmlessAll v (xs.flatMap f) ↔ ∀ x ∈ xs, HarmlessAll v (f x) := by
  simp only [harmlessAll_iff, List.mem_flatMap]
  constructor
  · intro h x hx m hm
    exact h m ⟨x, hx, hm⟩
  · rintro h m ⟨x, hx, hm⟩
    exact h x hx m hm

@[simp] theorem harmlessAll_map {α : Type} {f : α → Markup} {xs : List α} :
    HarmlessAll v (xs.map f) ↔ ∀ x ∈ xs, Harmless v (f x) := by
  simp [harmlessAll_iff]

mutual

theorem harmless_fragments (m : Markup) (h : Harmless v m) : ∀ f ∈ fragments m, f.Harmless v := by
  cases m with
  | value s =>
    cases s with
    | text s => simpa [fragments, Fragment.Harmless] using inert_escape s
    | verbatim s =>
      simpa [fragments, Fragment.Harmless] using Vocabulary.content_mem (harmless_verbatim.1 h)
  | element tag attributes children =>
    obtain ⟨ht, ha, hc⟩ := harmless_element.1 h
    simp only [fragments, List.forall_mem_append, List.forall_mem_singleton]
    exact ⟨harmless_startFragments ht ha, harmless_fragmentsOfAll children hc,
      Vocabulary.endTag_mem ht⟩
  | void tag attributes =>
    obtain ⟨ht, ha⟩ := harmless_void.1 h
    simpa only [fragments] using harmless_startFragments ht ha

/-- Harmless trees are written from literals of the vocabulary and inert text. -/
theorem harmless_fragmentsOfAll (ms : List Markup) (h : HarmlessAll v ms) :
    ∀ f ∈ fragmentsOfAll ms, f.Harmless v := by
  cases ms with
  | nil => simp [fragmentsOfAll]
  | cons m ms =>
    obtain ⟨hm, hms⟩ := harmlessAll_cons.1 h
    simp only [fragmentsOfAll, List.forall_mem_append]
    exact ⟨harmless_fragments m hm, harmless_fragmentsOfAll ms hms⟩

end

end Markup

end SpecCoverage
