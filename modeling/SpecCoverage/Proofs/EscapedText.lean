-- SUMMARY: Escaped text can be read back: escaping and decoding are inverse to each other.
import SpecCoverage.Proofs.Fragments

/-!
# Reading escaped text back

Escaping loses nothing. Read from left to right, with each entity taken for the character that it
stands for, an escaped text gives the text that was escaped, also where that text looks like an
entity or like the start of one. Inert texts are the escaped ones: each of them is what its decoding
is escaped to.
-/
namespace SpecCoverage.Markup

/-- Take each entity for its character, from left to right, and every other character as it is. What
an entity is read as is not read again. -/
def unescapeChars : List Char → List Char
  | '&' :: 'a' :: 'm' :: 'p' :: ';' :: s => '&' :: unescapeChars s
  | '&' :: 'l' :: 't' :: ';' :: s => '<' :: unescapeChars s
  | '&' :: 'g' :: 't' :: ';' :: s => '>' :: unescapeChars s
  | '&' :: 'q' :: 'u' :: 'o' :: 't' :: ';' :: s => '"' :: unescapeChars s
  | '&' :: '#' :: '3' :: '9' :: ';' :: s => '\'' :: unescapeChars s
  | c :: s => c :: unescapeChars s
  | [] => []

/-- The text that an escaped text stands for. -/
def unescape (s : String) : String :=
  String.ofList (unescapeChars s.toList)

theorem unescapeChars_cons {c : Char} (hc : c ≠ '&') (s : List Char) :
    unescapeChars (c :: s) = c :: unescapeChars s := by
  rw [unescapeChars] <;> rintro _ rfl <;> exact absurd rfl hc

-- ---------------------------------------------------------------------------
-- What is escaped
-- ---------------------------------------------------------------------------

theorem unescapeChars_escapeChar (c : Char) (s : List Char) :
    unescapeChars (escapeChar c ++ s) = c :: unescapeChars s := by
  unfold escapeChar
  split
  · rfl
  · rfl
  · rfl
  · rfl
  · rfl
  · rename_i hc _ _ _ _
    exact unescapeChars_cons hc s

theorem unescapeChars_escapeChars (s : List Char) : unescapeChars (escapeChars s) = s := by
  induction s with
  | nil => rfl
  | cons c s ih =>
    change unescapeChars (escapeChar c ++ escapeChars s) = c :: s
    rw [unescapeChars_escapeChar, ih]

-- ---------------------------------------------------------------------------
-- What is inert
-- ---------------------------------------------------------------------------

/-- What follows within inert text is inert. -/
theorem Inert.of_suffix {s t : List Char} (h : Inert s) (hts : t <:+ s) : Inert t where
  delimiter c hc := h.delimiter c (hts.subset hc)
  ampersand u hu := h.ampersand u (hu.trans hts)

theorem escapeChar_eq_self {c : Char} (hc : c ∉ '&' :: delimiters) : escapeChar c = [c] := by
  unfold escapeChar
  split <;> first | rfl | exact absurd (by decide) hc

theorem escapeChars_unescapeChars {s : List Char} (h : Inert s) :
    escapeChars (unescapeChars s) = s := by
  fun_induction unescapeChars s with
  | case1 s ih => exact congrArg ("&amp;".toList ++ ·) (ih (h.of_suffix ⟨"&amp;".toList, rfl⟩))
  | case2 s ih => exact congrArg ("&lt;".toList ++ ·) (ih (h.of_suffix ⟨"&lt;".toList, rfl⟩))
  | case3 s ih => exact congrArg ("&gt;".toList ++ ·) (ih (h.of_suffix ⟨"&gt;".toList, rfl⟩))
  | case4 s ih => exact congrArg ("&quot;".toList ++ ·) (ih (h.of_suffix ⟨"&quot;".toList, rfl⟩))
  | case5 s ih => exact congrArg ("&#39;".toList ++ ·) (ih (h.of_suffix ⟨"&#39;".toList, rfl⟩))
  | case6 c s hamp hlt hgt hquot hapos ih =>
    -- An ampersand would start an entity, and those are the cases before.
    have hne : c ≠ '&' := by
      rintro rfl
      obtain ⟨e, he, r, hr⟩ := h.ampersand s List.suffix_rfl
      simp only [entities, List.mem_cons, List.not_mem_nil, or_false] at he
      obtain rfl | rfl | rfl | rfl | rfl := he
      · exact hamp r rfl (List.cons.inj hr).2.symm
      · exact hlt r rfl (List.cons.inj hr).2.symm
      · exact hgt r rfl (List.cons.inj hr).2.symm
      · exact hquot r rfl (List.cons.inj hr).2.symm
      · exact hapos r rfl (List.cons.inj hr).2.symm
    have hplain : c ∉ '&' :: delimiters := by
      simp only [List.mem_cons, not_or]
      exact ⟨hne, h.delimiter c (List.mem_cons_self ..)⟩
    change escapeChar c ++ escapeChars (unescapeChars s) = c :: s
    rw [escapeChar_eq_self hplain, ih (h.of_suffix (List.suffix_cons c s))]
    rfl
  | case7 => rfl

-- ---------------------------------------------------------------------------
-- Texts
-- ---------------------------------------------------------------------------

theorem escape_append (s t : String) : escape (s ++ t) = escape s ++ escape t := by
  simp only [escape, String.toList_append, escapeChars_append, String.ofList_append]

theorem unescape_escape (s : String) : unescape (escape s) = s := by
  rw [unescape, escape, String.toList_ofList, unescapeChars_escapeChars, String.ofList_toList]

theorem escape_unescape {s : String} (h : Inert s.toList) : escape (unescape s) = s := by
  rw [unescape, escape, String.toList_ofList, escapeChars_unescapeChars h, String.ofList_toList]

theorem inert_iff_escape_unescape {s : String} :
    Inert s.toList ↔ escape (unescape s) = s :=
  ⟨escape_unescape, fun h => h ▸ inert_escape (unescape s)⟩

/-- Escaping is a faithful encoding. Texts that follow each other are escaped one after the other,
what is written is inert, decoding it gives the text back, so different texts stay different, and
nothing but escaped text is inert. -/
theorem escape_faithful :
    (∀ s t, escape (s ++ t) = escape s ++ escape t) ∧
      (∀ s, Inert (escape s).toList) ∧
      (∀ s, unescape (escape s) = s) ∧
      Function.Injective escape ∧
      ∀ s, Inert s.toList ↔ escape (unescape s) = s :=
  ⟨escape_append, inert_escape, unescape_escape, Function.LeftInverse.injective unescape_escape,
    fun _ => inert_iff_escape_unescape⟩

/-- An entity in the text that is escaped is not taken for one that escaping wrote. -/
example : unescape (escape "&amp;lt; &") = "&amp;lt; &" ∧ unescape "&amp;lt; &" = "&lt; &" := by
  decide +kernel

end SpecCoverage.Markup
