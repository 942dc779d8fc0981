-- SUMMARY: The texts of JSON values by the grammar; the reader gives each of them its value.
import Mathlib.Data.List.Forall2
import SpecCoverage.Json.Reader

/-!
# Texts of JSON values

A value has many texts: blanks stand freely between its parts, and a character of a string may be
written as itself or escaped. `IsText v s` says by the grammar of JSON that `s` is a text of `v`.
The reader gives every text the value that it is a text of, however deeply that nests.
-/
namespace SpecCoverage.Json

open Text

-- ---------------------------------------------------------------------------
-- Numbers, strings and blanks
-- ---------------------------------------------------------------------------

/-- Is the text made of the blanks that may stand between the parts of a text? -/
def AllSpace (s : List Char) : Prop :=
  ∀ c ∈ s, c = ' ' ∨ c = '\t' ∨ c = '\n' ∨ c = '\r'

/-- Is the text of the kind `p`, with blanks around it? -/
def Spaced (p : List Char → Prop) (s : List Char) : Prop :=
  ∃ before t after, AllSpace before ∧ p t ∧ AllSpace after ∧ s = before ++ t ++ after

/-- Is the text one digit or more? -/
def IsDigits (s : List Char) : Prop :=
  s ≠ [] ∧ ∀ c ∈ s, isAsciiDigit c = true

/-- Is the text a number with no needless zero in front? -/
def IsInteger (s : List Char) : Prop :=
  s = ['0'] ∨ IsDigits s ∧ s.head? ≠ some '0'

/-- Is the text a fraction, or nothing? -/
def IsFraction (s : List Char) : Prop :=
  s = [] ∨ ∃ ds, IsDigits ds ∧ s = '.' :: ds

/-- Is the text an exponent, or nothing? -/
def IsExponent (s : List Char) : Prop :=
  s = [] ∨ ∃ e sign ds, (e = 'e' ∨ e = 'E') ∧ (sign = [] ∨ sign = ['+'] ∨ sign = ['-']) ∧
    IsDigits ds ∧ s = e :: (sign ++ ds)

def IsNumeral (s : List Char) : Prop :=
  ∃ sign int fraction exponent, (sign = [] ∨ sign = ['-']) ∧ IsInteger int ∧
    IsFraction fraction ∧ IsExponent exponent ∧ s = sign ++ (int ++ (fraction ++ exponent))

/-- Is the text a spelling of a code unit? A character that stands for itself is taken as one. -/
inductive SpellsUnit : Nat → List Char → Prop
  | plain {c : Char} (hcontrol : 0x20 ≤ c.toNat) (hquote : c ≠ '"') (hescape : c ≠ '\\') :
    SpellsUnit c.toNat [c]
  | escape {c e : Char} (h : escapes.lookup c = some e) : SpellsUnit e.toNat ['\\', c]
  | code {a b c d : Char} {i j k l : Nat} (ha : hexDigit? a = some i) (hb : hexDigit? b = some j)
      (hc : hexDigit? c = some k) (hd : hexDigit? d = some l) :
    SpellsUnit (((i * 16 + j) * 16 + k) * 16 + l) ['\\', 'u', a, b, c, d]

/-- Is the text what stands between the quotes of a string? A string whose surrogates are not in
pairs has no text of its own. -/
def SpellsString (text? : Option String) (s : List Char) : Prop :=
  ∃ units pieces, List.Forall₂ SpellsUnit units pieces ∧ s = pieces.flatten ∧
    text? = (assemble [] units.reverse).map String.ofList

-- ---------------------------------------------------------------------------
-- Values
-- ---------------------------------------------------------------------------

/-- Is the text a string in its quotes? -/
def IsQuoted (text? : Option String) (s : List Char) : Prop :=
  ∃ body, SpellsString text? body ∧ s = '"' :: (body ++ ['"'])

/-- Is the text a name, a colon and a value of the kind `p`? -/
def IsMember (name : Option String) (p : List Char → Prop) (s : List Char) : Prop :=
  ∃ t u, Spaced (IsQuoted name) t ∧ Spaced p u ∧ s = t ++ ':' :: u

mutual

/-- Is `s` a text of the value, without blanks around it? -/
def IsText : Json → List Char → Prop
  | .null, s => s = "null".toList
  | .bool b, s => s = (if b then "true" else "false").toList
  | .number lexeme, s => IsNumeral s ∧ lexeme = String.ofList s
  | .string text?, s => IsQuoted text? s
  | .array items, s => ∃ body, AreItems items body ∧ s = '[' :: (body ++ [']'])
  | .object members, s => ∃ body, AreMembers members body ∧ s = '{' :: (body ++ ['}'])

/-- Is `s` a text of the items, with commas between them? -/
def AreItems : List Json → List Char → Prop
  | [], s => AllSpace s
  | [v], s => Spaced (IsText v) s
  | v :: w :: vs, s =>
    ∃ first rest, Spaced (IsText v) first ∧ AreItems (w :: vs) rest ∧ s = first ++ ',' :: rest

/-- Is `s` a text of the members, with commas between them? -/
def AreMembers : List (Option String × Json) → List Char → Prop
  | [], s => AllSpace s
  | [(n, v)], s => IsMember n (IsText v) s
  | (n, v) :: m :: ms, s =>
    ∃ first rest, IsMember n (IsText v) first ∧ AreMembers (m :: ms) rest ∧
      s = first ++ ',' :: rest

end

mutual

/-- The tokens that every text of a value has. -/
def tokens : Json → List Token
  | .null => [.null]
  | .bool b => [.bool b]
  | .number lexeme => [.number lexeme]
  | .string text? => [.string text?]
  | .array items => .beginArray :: (itemTokens items ++ [.endArray])
  | .object members => .beginObject :: (memberTokens members ++ [.endObject])

def itemTokens : List Json → List Token
  | [] => []
  | [v] => tokens v
  | v :: w :: vs => tokens v ++ .comma :: itemTokens (w :: vs)

def memberTokens : List (Option String × Json) → List Token
  | [] => []
  | [(n, v)] => .string n :: .colon :: tokens v
  | (n, v) :: m :: ms => .string n :: .colon :: (tokens v ++ .comma :: memberTokens (m :: ms))

end

-- ---------------------------------------------------------------------------
-- From the text to tokens
-- ---------------------------------------------------------------------------

/-- The tokens of a text that goes on from a state of the lexer. -/
def lexFrom (st : LexState) (s : List Char) : Option (List Token) :=
  (s.foldlM lexStep st).bind lexEnd

@[simp] theorem lexFrom_cons (st : LexState) (c : Char) (s : List Char) :
    lexFrom st (c :: s) = (lexStep st c).bind fun st => lexFrom st s := by
  rw [lexFrom, List.foldlM_cons]
  exact Option.bind_assoc ..

/-- Does no word or number go on with the text? -/
def EndsAtom (s : List Char) : Prop :=
  ∀ c ∈ s.head?, isAtomChar c = false

variable {ts : List Token} {rest : List Char}

theorem lexFrom_space {s : List Char} (h : AllSpace s) :
    lexFrom ⟨ts, .between⟩ (s ++ rest) = lexFrom ⟨ts, .between⟩ rest := by
  induction s with
  | nil => rfl
  | cons c s ih =>
    obtain ⟨hc, hs⟩ := List.forall_mem_cons.1 h
    have hstep : lexStep ⟨ts, .between⟩ c = some ⟨ts, .between⟩ := by
      obtain rfl | rfl | rfl | rfl := hc <;> rfl
    rw [List.cons_append, lexFrom_cons, hstep]
    exact ih hs

theorem EndsAtom.of_space {s : List Char} (h : AllSpace s) (hrest : EndsAtom rest) :
    EndsAtom (s ++ rest) := by
  cases s with
  | nil => exact hrest
  | cons c s =>
    intro d hd
    obtain rfl : c = d := by simpa using hd
    obtain rfl | rfl | rfl | rfl := h c List.mem_cons_self <;> decide

/-! ## Words and numbers -/

theorem lexFrom_inAtom {s acc : List Char} (h : ∀ c ∈ s, isAtomChar c = true) :
    lexFrom ⟨ts, .atom acc⟩ (s ++ rest) = lexFrom ⟨ts, .atom (s.reverse ++ acc)⟩ rest := by
  induction s generalizing acc with
  | nil => rfl
  | cons c s ih =>
    obtain ⟨hc, hs⟩ := List.forall_mem_cons.1 h
    have hstep : lexStep ⟨ts, .atom acc⟩ c = some ⟨ts, .atom (c :: acc)⟩ := by
      simp [lexStep, hc]
    rw [List.cons_append, lexFrom_cons, hstep, List.reverse_cons, List.append_assoc]
    exact ih hs

theorem lexFrom_endAtom {acc : List Char} {t : Token} (h : atom? acc.reverse = some t)
    (hrest : EndsAtom rest) :
    lexFrom ⟨ts, .atom acc⟩ rest = lexFrom ⟨t :: ts, .between⟩ rest := by
  cases rest with
  | nil => simp [lexFrom, lexEnd, h]
  | cons c s =>
    have hc : isAtomChar c = false := hrest c rfl
    have hstep : lexStep ⟨ts, .atom acc⟩ c = lexStep ⟨t :: ts, .between⟩ c := by
      simp [lexStep, hc, h]
    rw [lexFrom_cons, lexFrom_cons, hstep]

/-- A word or number ends where no more of its characters follow. -/
theorem lexFrom_atom {s : List Char} {t : Token} (hne : s ≠ [])
    (hs : ∀ c ∈ s, isAtomChar c = true) (ht : atom? s = some t) (hrest : EndsAtom rest) :
    lexFrom ⟨ts, .between⟩ (s ++ rest) = lexFrom ⟨t :: ts, .between⟩ rest := by
  cases s with
  | nil => exact absurd rfl hne
  | cons c s =>
    obtain ⟨hc, hs⟩ := List.forall_mem_cons.1 hs
    have hstep : lexStep ⟨ts, .between⟩ c = some ⟨ts, .atom [c]⟩ := by
      have hne (d : Char) (hd : isAtomChar d = false) : c ≠ d := by
        rintro rfl
        exact Bool.false_ne_true (hd.symm.trans hc)
      simp [lexStep, lexBetween, hc, hne ' ' rfl, hne '\t' rfl, hne '\n' rfl, hne '\r' rfl,
        hne '"' rfl]
    have hend : atom? (s.reverse ++ [c]).reverse = some t := by
      rw [List.reverse_append, List.reverse_reverse]
      exact ht
    rw [List.cons_append, lexFrom_cons, hstep, Option.bind_some, lexFrom_inAtom hs,
      lexFrom_endAtom hend hrest]

/-! ## Strings -/

theorem lexFrom_unit {u : Nat} {us : List Nat} {s : List Char} (h : SpellsUnit u s) :
    lexFrom ⟨ts, .string us⟩ (s ++ rest) = lexFrom ⟨ts, .string (u :: us)⟩ rest := by
  cases h with
  | @plain c hcontrol hquote hescape =>
    have hstep : lexStep ⟨ts, .string us⟩ c = some ⟨ts, .string (c.toNat :: us)⟩ := by
      simp [lexStep, hquote, hescape, Nat.not_lt.2 hcontrol]
    rw [List.singleton_append, lexFrom_cons, hstep, Option.bind_some]
  | @escape c e h =>
    have hstep : lexStep ⟨ts, .escape us⟩ c = some ⟨ts, .string (e.toNat :: us)⟩ := by
      have hc : c ≠ 'u' := by
        rintro rfl
        have hnone : escapes.lookup 'u' = none := by decide
        rw [hnone] at h
        cases h
      simp [lexStep, hc, h]
    have hbackslash : lexStep ⟨ts, .string us⟩ '\\' = some ⟨ts, .escape us⟩ := rfl
    simp only [List.cons_append, List.nil_append, lexFrom_cons, hbackslash, hstep,
      Option.bind_some]
  | @code a b c d i j k l ha hb hc hd =>
    simp [lexStep, ha, hb, hc, hd]

theorem lexFrom_string {text? : Option String} {s : List Char} (h : IsQuoted text? s) :
    lexFrom ⟨ts, .between⟩ (s ++ rest) = lexFrom ⟨.string text? :: ts, .between⟩ rest := by
  obtain ⟨body, ⟨units, pieces, hunits, rfl, rfl⟩, rfl⟩ := h
  -- The units are read one by one behind those that are read already.
  have hpieces (us : List Nat) (rest : List Char) :
      lexFrom ⟨ts, .string us⟩ (pieces.flatten ++ rest) =
        lexFrom ⟨ts, .string (units.reverse ++ us)⟩ rest := by
    induction hunits generalizing us with
    | nil => rfl
    | @cons u piece units pieces hunit _ ih =>
      rw [List.flatten_cons, List.append_assoc, lexFrom_unit hunit, ih, List.reverse_cons,
        List.append_assoc, List.singleton_append]
  have hopen : lexStep ⟨ts, .between⟩ '"' = some ⟨ts, .string []⟩ := rfl
  rw [List.cons_append, List.append_assoc, lexFrom_cons, hopen, Option.bind_some, hpieces,
    List.append_nil, List.singleton_append, lexFrom_cons]
  rfl

/-! ## Numbers -/

/-- What goes on with a number as something else than a digit. -/
def EndsDigits (s : List Char) : Prop :=
  ∀ c ∈ s.head?, isAsciiDigit c = false

theorem digits?_append {ds : List Char} (h : IsDigits ds) (hrest : EndsDigits rest) :
    digits? (ds ++ rest) = some rest := by
  cases ds with
  | nil => exact absurd rfl h.1
  | cons d ds =>
    obtain ⟨hd, hds⟩ := List.forall_mem_cons.1 h.2
    have hdrop : rest.dropWhile isAsciiDigit = rest := by
      cases rest with
      | nil => rfl
      | cons c s => simp [hrest c rfl]
    rw [List.cons_append, digits?, if_pos hd, List.dropWhile_append_of_pos hds, hdrop]

theorem IsInteger.exists_digit {s : List Char} (h : IsInteger s) :
    ∃ d t, s = d :: t ∧ isAsciiDigit d = true := by
  obtain rfl | ⟨hs, -⟩ := h
  · exact ⟨'0', [], rfl, rfl⟩
  · obtain ⟨d, t, rfl⟩ := List.exists_cons_of_ne_nil hs.1
    exact ⟨d, t, rfl, hs.2 d List.mem_cons_self⟩

theorem integer?_append {s : List Char} (h : IsInteger s) (hrest : EndsDigits rest) :
    integer? (s ++ rest) = some rest := by
  obtain rfl | ⟨hs, hzero⟩ := h
  · rfl
  · have hdigits : integer? (s ++ rest) = digits? (s ++ rest) := by
      cases s with
      | nil => exact absurd rfl hs.1
      | cons d s =>
        rw [List.cons_append, integer?]
        rintro _ h
        cases h
        exact hzero rfl
    rw [hdigits, digits?_append hs hrest]

theorem fraction?_append {s : List Char} (h : IsFraction s) (hdigits : EndsDigits rest)
    (hpoint : rest.head? ≠ some '.') : fraction? (s ++ rest) = some rest := by
  obtain rfl | ⟨ds, hds, rfl⟩ := h
  · cases rest with
    | nil => rfl
    | cons c s =>
      rw [List.nil_append, fraction?]
      rintro _ h
      cases h
      exact hpoint rfl
  · exact digits?_append hds hdigits

theorem exponent?_of_isExponent {s : List Char} (h : IsExponent s) : exponent? s = some [] := by
  obtain rfl | ⟨e, sign, ds, he, hsign, hds, rfl⟩ := h
  · rfl
  · have hdigits : digits? (ds ++ []) = some [] := digits?_append hds (by simp [EndsDigits])
    rw [List.append_nil] at hdigits
    have hmark : (e = 'e' || e = 'E') = true := by simpa using he
    obtain rfl | rfl | rfl := hsign
    · rw [List.nil_append, exponent?, if_pos hmark]
      · exact hdigits
      · rintro r rfl
        exact absurd (hds.2 '+' List.mem_cons_self) (by decide)
      · rintro r rfl
        exact absurd (hds.2 '-' List.mem_cons_self) (by decide)
    · exact (if_pos hmark).trans hdigits
    · exact (if_pos hmark).trans hdigits

theorem IsExponent.head {s : List Char} (h : IsExponent s) : ∀ c ∈ s.head?, c = 'e' ∨ c = 'E' := by
  obtain rfl | ⟨e, sign, ds, he, -, -, rfl⟩ := h
  · simp
  · simpa using he

theorem IsExponent.endsDigits {s : List Char} (h : IsExponent s) : EndsDigits s := by
  intro c hc
  obtain rfl | rfl := h.head c hc <;> rfl

theorem IsExponent.head?_ne {s : List Char} (h : IsExponent s) : s.head? ≠ some '.' := by
  intro hc
  obtain h | h := h.head '.' hc <;> exact absurd h (by decide)

theorem IsFraction.endsDigits_append {s : List Char} (h : IsFraction s) (hrest : EndsDigits rest) :
    EndsDigits (s ++ rest) := by
  obtain rfl | ⟨ds, -, rfl⟩ := h
  · exact hrest
  · rintro c h
    cases h
    rfl

/-- The parts of a number without sign are looked for one after the other. -/
theorem isNumber_append {s : List Char} (h : IsInteger s) :
    isNumber (s ++ rest) =
      (((integer? (s ++ rest)).bind fraction?).bind exponent? == some []) := by
  delta isNumber
  split
  · rename_i r hminus
    obtain ⟨d, t, rfl, hd⟩ := h.exists_digit
    cases hminus
    exact absurd hd (by decide)
  · rfl

theorem isNumber_of_isNumeral {s : List Char} (h : IsNumeral s) : isNumber s = true := by
  obtain ⟨sign, int, fraction, exponent, hsign, hint, hfraction, hexponent, rfl⟩ := h
  have hparts : ((integer? (int ++ (fraction ++ exponent))).bind fraction?).bind exponent? =
      some [] := by
    rw [integer?_append hint (hfraction.endsDigits_append hexponent.endsDigits), Option.bind_some,
      fraction?_append hfraction hexponent.endsDigits hexponent.head?_ne, Option.bind_some,
      exponent?_of_isExponent hexponent]
  have hunsigned : isNumber (int ++ (fraction ++ exponent)) = true := by
    rw [isNumber_append hint, hparts]
    rfl
  obtain rfl | rfl := hsign
  · exact hunsigned
  · -- a sign in front is passed over
    rw [isNumber_append hint] at hunsigned
    exact hunsigned

theorem isAtomChar_of_isDigits {ds : List Char} (h : IsDigits ds) :
    ∀ c ∈ ds, isAtomChar c = true := by
  intro c hc
  simp [isAtomChar, isAsciiAlphanumeric, h.2 c hc]

theorem isAtomChar_of_isNumeral {s : List Char} (h : IsNumeral s) :
    ∀ c ∈ s, isAtomChar c = true := by
  obtain ⟨sign, int, fraction, exponent, hsign, hint, hfraction, hexponent, rfl⟩ := h
  simp only [List.forall_mem_append]
  refine ⟨?_, ?_, ?_, ?_⟩
  · obtain rfl | rfl := hsign <;> exact List.all_eq_true.1 rfl
  · obtain rfl | ⟨hint, -⟩ := hint
    · exact List.all_eq_true.1 rfl
    · exact isAtomChar_of_isDigits hint
  · obtain rfl | ⟨ds, hds, rfl⟩ := hfraction
    · simp
    · exact List.forall_mem_cons.2 ⟨rfl, isAtomChar_of_isDigits hds⟩
  · obtain rfl | ⟨e, sign, ds, he, hsign, hds, rfl⟩ := hexponent
    · simp
    · refine List.forall_mem_cons.2 ⟨?_, List.forall_mem_append.2 ⟨?_, isAtomChar_of_isDigits hds⟩⟩
      · obtain rfl | rfl := he <;> rfl
      · obtain rfl | rfl | rfl := hsign <;> exact List.all_eq_true.1 rfl

theorem ne_nil_of_isNumeral {s : List Char} (h : IsNumeral s) : s ≠ [] := by
  obtain ⟨sign, int, fraction, exponent, -, hint, -, -, rfl⟩ := h
  obtain ⟨d, t, rfl, -⟩ := hint.exists_digit
  simp

theorem atom?_of_isNumeral {s : List Char} (h : IsNumeral s) :
    atom? s = some (.number (String.ofList s)) := by
  have hnumber := isNumber_of_isNumeral h
  have hne (word : String) (hword : isNumber word.toList = false) : s ≠ word.toList := by
    rintro rfl
    exact Bool.false_ne_true (hword.symm.trans hnumber)
  rw [atom?, if_neg (hne _ (by decide)), if_neg (hne _ (by decide)), if_neg (hne _ (by decide)),
    if_pos hnumber]

/-! ## Values

The text of a value ends where no word or number goes on; whatever follows is read from there. -/

theorem lexFrom_spaced {p : List Char → Prop} {s : List Char} {us : List Token}
    (hp : ∀ {t rest}, p t → EndsAtom rest →
      lexFrom ⟨ts, .between⟩ (t ++ rest) = lexFrom ⟨us, .between⟩ rest)
    (h : Spaced p s) (hrest : EndsAtom rest) :
    lexFrom ⟨ts, .between⟩ (s ++ rest) = lexFrom ⟨us, .between⟩ rest := by
  obtain ⟨before, t, after, hbefore, ht, hafter, rfl⟩ := h
  rw [List.append_assoc, List.append_assoc, lexFrom_space hbefore,
    hp ht (EndsAtom.of_space hafter hrest), lexFrom_space hafter]

theorem endsAtom_cons {c : Char} (h : isAtomChar c = false) : EndsAtom (c :: rest) := by
  intro d hd
  obtain rfl : c = d := by simpa using hd
  exact h

theorem lexFrom_member {n : Option String} {p : List Char → Prop} {s : List Char} {us : List Token}
    (hp : ∀ {t rest} ts, p t → EndsAtom rest →
      lexFrom ⟨ts, .between⟩ (t ++ rest) = lexFrom ⟨us ++ ts, .between⟩ rest)
    (h : IsMember n p s) (hrest : EndsAtom rest) :
    lexFrom ⟨ts, .between⟩ (s ++ rest) =
      lexFrom ⟨us ++ .colon :: .string n :: ts, .between⟩ rest := by
  obtain ⟨name, value, hname, hvalue, rfl⟩ := h
  rw [List.append_assoc, List.cons_append,
    lexFrom_spaced (fun ht _ => lexFrom_string ht) hname (endsAtom_cons rfl), lexFrom_cons]
  exact lexFrom_spaced (hp _) hvalue hrest

mutual

theorem lexFrom_text (v : Json) {s rest : List Char} (ts : List Token) (h : IsText v s)
    (hrest : EndsAtom rest) :
    lexFrom ⟨ts, .between⟩ (s ++ rest) = lexFrom ⟨(tokens v).reverse ++ ts, .between⟩ rest := by
  cases v with
  | null =>
    rw [IsText] at h
    subst h
    exact lexFrom_atom (by decide) (List.all_eq_true.1 rfl) rfl hrest
  | bool b =>
    rw [IsText] at h
    subst h
    cases b <;> exact lexFrom_atom (by decide) (List.all_eq_true.1 rfl) rfl hrest
  | number lexeme =>
    rw [IsText] at h
    obtain ⟨hs, rfl⟩ := h
    exact lexFrom_atom (ne_nil_of_isNumeral hs) (isAtomChar_of_isNumeral hs)
      (atom?_of_isNumeral hs) hrest
  | string text? =>
    rw [IsText] at h
    exact lexFrom_string h
  | array items =>
    rw [IsText] at h
    obtain ⟨body, hbody, rfl⟩ := h
    have hclose : EndsAtom (']' :: rest) := endsAtom_cons rfl
    have hitems := lexFrom_items items (.beginArray :: ts) hbody hclose
    rw [List.cons_append, List.append_assoc, List.singleton_append, tokens, List.reverse_cons,
      List.reverse_append, List.append_assoc]
    exact hitems
  | object members =>
    rw [IsText] at h
    obtain ⟨body, hbody, rfl⟩ := h
    have hclose : EndsAtom ('}' :: rest) := endsAtom_cons rfl
    have hmembers := lexFrom_members members (.beginObject :: ts) hbody hclose
    rw [List.cons_append, List.append_assoc, List.singleton_append, tokens, List.reverse_cons,
      List.reverse_append, List.append_assoc]
    exact hmembers

theorem lexFrom_items (vs : List Json) {s rest : List Char} (ts : List Token) (h : AreItems vs s)
    (hrest : EndsAtom rest) :
    lexFrom ⟨ts, .between⟩ (s ++ rest) =
      lexFrom ⟨(itemTokens vs).reverse ++ ts, .between⟩ rest := by
  cases vs with
  | nil => exact lexFrom_space h
  | cons v vs =>
    cases vs with
    | nil => exact lexFrom_spaced (fun ht hrest => lexFrom_text v ts ht hrest) h hrest
    | cons w vs =>
      rw [AreItems] at h
      obtain ⟨first, others, hfirst, hothers, rfl⟩ := h
      have hrest := lexFrom_items (w :: vs) (.comma :: ((tokens v).reverse ++ ts)) hothers hrest
      rw [List.append_assoc, List.cons_append, lexFrom_spaced (fun ht h => lexFrom_text v ts ht h)
        hfirst (endsAtom_cons rfl), itemTokens, List.reverse_append, List.reverse_cons,
        List.append_assoc, List.append_assoc]
      exact hrest

theorem lexFrom_members (ms : List (Option String × Json)) {s rest : List Char} (ts : List Token)
    (h : AreMembers ms s) (hrest : EndsAtom rest) :
    lexFrom ⟨ts, .between⟩ (s ++ rest) =
      lexFrom ⟨(memberTokens ms).reverse ++ ts, .between⟩ rest := by
  cases ms with
  | nil => exact lexFrom_space h
  | cons m ms =>
    obtain ⟨n, v⟩ := m
    cases ms with
    | nil =>
      rw [lexFrom_member (fun ts ht h => lexFrom_text v ts ht h) h hrest]
      simp [memberTokens]
    | cons m ms =>
      rw [AreMembers] at h
      obtain ⟨first, others, hfirst, hothers, rfl⟩ := h
      have hrest := lexFrom_members (m :: ms)
        (.comma :: ((tokens v).reverse ++ .colon :: .string n :: ts)) hothers hrest
      rw [List.append_assoc, List.cons_append,
        lexFrom_member (fun ts ht h => lexFrom_text v ts ht h) hfirst (endsAtom_cons rfl),
        lexFrom_cons]
      refine hrest.trans ?_
      simp [memberTokens]

end

-- ---------------------------------------------------------------------------
-- From tokens to the value
-- ---------------------------------------------------------------------------

def readFrom (st : ReadState) (ts : List Token) : Option ReadState :=
  ts.foldlM readStep st

@[simp] theorem readFrom_nil (st : ReadState) : readFrom st [] = some st := rfl

@[simp] theorem readFrom_cons (st : ReadState) (t : Token) (ts : List Token) :
    readFrom st (t :: ts) = (readStep st t).bind fun st => readFrom st ts :=
  List.foldlM_cons ..

@[simp] theorem readFrom_append (st : ReadState) (ts us : List Token) :
    readFrom st (ts ++ us) = (readFrom st ts).bind fun st => readFrom st us :=
  List.foldlM_append ..

/-- Right after the bracket an item is read like any other value. -/
theorem readFrom_itemOrEnd (v : Json) (fs : List Frame) :
    readFrom (.itemOrEnd fs) (tokens v) = readFrom (.value (.items [] :: fs)) (tokens v) := by
  have hfirst : ∃ t ts, tokens v = t :: ts ∧ t ≠ Token.endArray := by
    cases v <;> exact ⟨_, _, by rw [tokens], by simp⟩
  obtain ⟨t, ts, htokens, ht⟩ := hfirst
  have hstep : readStep (.itemOrEnd fs) t = readStep (.value (.items [] :: fs)) t := by
    cases t <;> first | rfl | exact absurd rfl ht
  rw [htokens, readFrom_cons, readFrom_cons, hstep]

mutual

theorem readFrom_tokens (v : Json) (fs : List Frame) :
    readFrom (.value fs) (tokens v) = some (.next v fs) := by
  cases v with
  | null => rfl
  | bool b => rfl
  | number lexeme => rfl
  | string text? => rfl
  | array items =>
    have hread : readFrom (.itemOrEnd fs) (itemTokens items ++ [.endArray]) =
        some (.next (.array items) fs) := by
      cases items with
      | nil => rfl
      | cons v vs =>
        have hitems := readFrom_itemTokens (v :: vs) (by simp) [] fs
        rw [List.reverse_nil, List.nil_append] at hitems
        rw [← hitems]
        cases vs <;> simp only [itemTokens, readFrom_append, readFrom_itemOrEnd]
    rw [tokens, readFrom_cons]
    exact hread
  | object members =>
    have hread : readFrom (.nameOrEnd fs) (memberTokens members ++ [.endObject]) =
        some (.next (.object members) fs) := by
      cases members with
      | nil => rfl
      | cons m ms =>
        have hmembers := readFrom_memberTokens (m :: ms) (by simp) [] fs
        rw [List.reverse_nil, List.nil_append] at hmembers
        rw [← hmembers]
        cases ms <;> rfl
    rw [tokens, readFrom_cons]
    exact hread

theorem readFrom_itemTokens (vs : List Json) (h : vs ≠ []) (done : List Json) (fs : List Frame) :
    readFrom (.value (.items done :: fs)) (itemTokens vs ++ [.endArray]) =
      some (.next (.array (done.reverse ++ vs)) fs) := by
  cases vs with
  | nil => exact absurd rfl h
  | cons v vs =>
    cases vs with
    | nil =>
      rw [itemTokens, readFrom_append, readFrom_tokens v]
      simp [readStep]
    | cons w vs =>
      have hrest := readFrom_itemTokens (w :: vs) (by simp) (v :: done) fs
      rw [List.reverse_cons, List.append_assoc, List.singleton_append] at hrest
      rw [itemTokens, List.append_assoc, readFrom_append, readFrom_tokens v]
      exact hrest

theorem readFrom_memberTokens (ms : List (Option String × Json)) (h : ms ≠ [])
    (done : List (Option String × Json)) (fs : List Frame) :
    readFrom (.name done fs) (memberTokens ms ++ [.endObject]) =
      some (.next (.object (done.reverse ++ ms)) fs) := by
  cases ms with
  | nil => exact absurd rfl h
  | cons m ms =>
    obtain ⟨n, v⟩ := m
    cases ms with
    | nil =>
      have hvalue := readFrom_tokens v (.member done n :: fs)
      simp [memberTokens, readStep, hvalue]
    | cons m ms =>
      have hvalue := readFrom_tokens v (.member done n :: fs)
      have hrest := readFrom_memberTokens (m :: ms) (by simp) ((n, v) :: done) fs
      rw [List.reverse_cons, List.append_assoc, List.singleton_append] at hrest
      rw [← hrest]
      simp [memberTokens, readStep, hvalue]

end

/-- The reader gives a text the value that it is a text of. -/
theorem read?_of_isText {text : String} {v : Json} (h : Spaced (IsText v) text.toList) :
    read? text = some v := by
  have htokens : tokens? text.toList = some (tokens v) := by
    have hend : EndsAtom [] := by simp [EndsAtom]
    have hlex := lexFrom_spaced (fun ht h => lexFrom_text v [] ht h) h hend
    rw [List.append_nil, List.append_nil] at hlex
    have htokens : tokens? text.toList = lexFrom ⟨[], .between⟩ text.toList := rfl
    rw [htokens, hlex]
    simp [lexFrom, lexEnd]
  have hread : (tokens v).foldlM readStep (.value []) = some (.next v []) := readFrom_tokens v []
  rw [read?, htokens, Option.bind_some, ofTokens?, hread]

end SpecCoverage.Json
