-- SUMMARY: A text for every JSON value whose numbers are written as numbers.
import SpecCoverage.Proofs.JsonText

/-!
# Printed JSON values

Every value has a text, if only what it holds as numbers are numbers. The printed text has no
blanks; of the characters of a string it escapes those that may not stand for themselves.
-/
namespace SpecCoverage.Json

open Text

-- ---------------------------------------------------------------------------
-- Strings
-- ---------------------------------------------------------------------------

/-- The hexadecimal digit of a number below 16. -/
def hexDigit (n : Nat) : Char :=
  if n < 10 then Char.ofNat ('0'.toNat + n) else Char.ofNat ('a'.toNat + (n - 10))

/-- A character as it is printed in a string. -/
def printChar (c : Char) : List Char :=
  if c = '"' then ['\\', '"']
  else if c = '\\' then ['\\', '\\']
  else if c.toNat < 0x20 then
    ['\\', 'u', '0', '0', hexDigit (c.toNat / 16), hexDigit (c.toNat % 16)]
  else [c]

theorem hexDigit?_hexDigit {n : Nat} (h : n < 16) : hexDigit? (hexDigit n) = some n := by
  revert n
  decide

theorem spellsUnit_printChar (c : Char) : SpellsUnit c.toNat (printChar c) := by
  unfold printChar
  split
  · rename_i h
    subst h
    exact .escape (e := '"') rfl
  · rename_i hquote
    split
    · rename_i h
      subst h
      exact .escape (e := '\\') rfl
    · rename_i hescape
      split
      · rename_i hcontrol
        have hunit := SpellsUnit.code (a := '0') (b := '0') (i := 0) (j := 0) rfl rfl
          (hexDigit?_hexDigit (n := c.toNat / 16) (by omega))
          (hexDigit?_hexDigit (n := c.toNat % 16) (by omega))
        have hcode : ((0 * 16 + 0) * 16 + c.toNat / 16) * 16 + c.toNat % 16 = c.toNat := by omega
        rwa [hcode] at hunit
      · rename_i hcontrol
        exact .plain (Nat.le_of_not_lt hcontrol) hquote hescape

theorem not_surrogate_toNat (c : Char) :
    isHighSurrogate c.toNat = false ∧ isLowSurrogate c.toNat = false := by
  have hvalid : c.toNat < 0xD800 ∨ 0xDFFF < c.toNat ∧ c.toNat < 0x110000 := c.valid
  simp only [isHighSurrogate, isLowSurrogate, Bool.and_eq_false_iff, decide_eq_false_iff_not]
  omega

/-- Characters are put together one by one, as none of them is a surrogate. -/
theorem assemble_map_toNat (text s : List Char) :
    assemble text (s.map Char.toNat) = some (s.reverse ++ text) := by
  induction s generalizing text with
  | nil => rfl
  | cons c s ih =>
    obtain ⟨hhigh, hlow⟩ := not_surrogate_toNat c
    have hstep : assemble text ((c :: s).map Char.toNat) =
        assemble (c :: text) (s.map Char.toNat) := by
      cases s with
      | nil => simp [assemble, hhigh, hlow]
      | cons d s => simp [assemble, hhigh, hlow]
    rw [hstep, ih, List.reverse_cons, List.append_assoc, List.singleton_append]

/-- A string as it is printed; one without a text of its own is a lone surrogate. -/
def printString : Option String → List Char
  | some text => '"' :: (text.toList.flatMap printChar ++ ['"'])
  | none => "\"\\ud800\"".toList

theorem isQuoted_printString (text? : Option String) : IsQuoted text? (printString text?) := by
  cases text? with
  | none =>
    refine ⟨['\\', 'u', 'd', '8', '0', '0'], ⟨[0xD800], [['\\', 'u', 'd', '8', '0', '0']], ?_, rfl,
      rfl⟩, rfl⟩
    exact .cons (.code (i := 13) (j := 8) (k := 0) (l := 0) rfl rfl rfl rfl) .nil
  | some text =>
    refine ⟨_, ⟨text.toList.map Char.toNat, text.toList.map printChar, ?_, rfl, ?_⟩, rfl⟩
    · rw [List.forall₂_map_left_iff, List.forall₂_map_right_iff, List.forall₂_same]
      exact fun c _ => spellsUnit_printChar c
    · rw [← List.map_reverse, assemble_map_toNat, List.reverse_reverse, List.append_nil,
        Option.map_some, String.ofList_toList]

-- ---------------------------------------------------------------------------
-- Values
-- ---------------------------------------------------------------------------

mutual

def print : Json → List Char
  | .null => "null".toList
  | .bool b => (if b then "true" else "false").toList
  | .number lexeme => lexeme.toList
  | .string text? => printString text?
  | .array items => '[' :: (printItems items ++ [']'])
  | .object members => '{' :: (printMembers members ++ ['}'])

def printItems : List Json → List Char
  | [] => []
  | [v] => print v
  | v :: w :: vs => print v ++ ',' :: printItems (w :: vs)

def printMembers : List (Option String × Json) → List Char
  | [] => []
  | [(n, v)] => printString n ++ ':' :: print v
  | (n, v) :: m :: ms => printString n ++ ':' :: (print v ++ ',' :: printMembers (m :: ms))

end

mutual

/-- Is every number in the value written as a number? -/
def Writable : Json → Prop
  | .number lexeme => IsNumeral lexeme.toList
  | .array items => WritableItems items
  | .object members => WritableMembers members
  | _ => True

def WritableItems : List Json → Prop
  | [] => True
  | v :: vs => Writable v ∧ WritableItems vs

def WritableMembers : List (Option String × Json) → Prop
  | [] => True
  | (_, v) :: ms => Writable v ∧ WritableMembers ms

end

theorem Spaced.of_self {p : List Char → Prop} {s : List Char} (h : p s) : Spaced p s :=
  ⟨[], s, [], by simp [AllSpace], h, by simp [AllSpace], by simp⟩

mutual

theorem isText_print (v : Json) (h : Writable v) : IsText v (print v) := by
  cases v with
  | null => rw [IsText, print]
  | bool b => rw [IsText, print]
  | number lexeme =>
    rw [IsText, print]
    rw [Writable] at h
    exact ⟨h, String.ofList_toList.symm⟩
  | string text? =>
    rw [IsText, print]
    exact isQuoted_printString text?
  | array items =>
    rw [IsText, print]
    rw [Writable] at h
    exact ⟨_, areItems_print items h, rfl⟩
  | object members =>
    rw [IsText, print]
    rw [Writable] at h
    exact ⟨_, areMembers_print members h, rfl⟩

theorem areItems_print (vs : List Json) (h : WritableItems vs) : AreItems vs (printItems vs) := by
  cases vs with
  | nil => simp [AreItems, printItems, AllSpace]
  | cons v vs =>
    rw [WritableItems] at h
    cases vs with
    | nil =>
      rw [AreItems, printItems]
      exact .of_self (isText_print v h.1)
    | cons w vs =>
      rw [AreItems, printItems]
      exact ⟨_, _, .of_self (isText_print v h.1), areItems_print (w :: vs) h.2, rfl⟩

theorem areMembers_print (ms : List (Option String × Json)) (h : WritableMembers ms) :
    AreMembers ms (printMembers ms) := by
  cases ms with
  | nil => simp [AreMembers, printMembers, AllSpace]
  | cons m ms =>
    obtain ⟨n, v⟩ := m
    rw [WritableMembers] at h
    have hmember : IsMember n (IsText v) (printString n ++ ':' :: print v) :=
      ⟨_, _, .of_self (isQuoted_printString n), .of_self (isText_print v h.1), rfl⟩
    cases ms with
    | nil =>
      rw [AreMembers, printMembers]
      exact hmember
    | cons m ms =>
      rw [AreMembers, printMembers]
      exact ⟨_, _, hmember, areMembers_print (m :: ms) h.2, by simp⟩

end

/-- Every value whose numbers are numbers is read back from its printed text. -/
theorem read?_print {v : Json} (h : Writable v) : read? (String.ofList (print v)) = some v := by
  apply read?_of_isText
  rw [String.toList_ofList]
  exact .of_self (isText_print v h)

end SpecCoverage.Json
