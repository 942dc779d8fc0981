-- SUMMARY: Letters, digits and case mapping in ASCII alone.

/-!
# ASCII letters

Language keys, tags and anchors fold case in ASCII only; any other character stays as it is.
-/
namespace SpecCoverage.Text

def isAsciiUpper (c : Char) : Bool := 'A' ≤ c && c ≤ 'Z'

def isAsciiLower (c : Char) : Bool := 'a' ≤ c && c ≤ 'z'

def isAsciiDigit (c : Char) : Bool := '0' ≤ c && c ≤ '9'

def isAsciiAlphanumeric (c : Char) : Bool :=
  isAsciiUpper c || isAsciiLower c || isAsciiDigit c

theorem toNat_lt_of_isAsciiAlphanumeric {c : Char} (h : isAsciiAlphanumeric c = true) :
    c.toNat < 128 := by
  simp only [isAsciiAlphanumeric, isAsciiUpper, isAsciiLower, isAsciiDigit, Bool.or_eq_true,
    Bool.and_eq_true, decide_eq_true_eq, Char.le_def, UInt32.le_iff_toNat_le] at h
  change c.val.toNat < 128
  obtain (⟨-, h⟩ | ⟨-, h⟩) | ⟨-, h⟩ := h
  · exact Nat.lt_of_le_of_lt h (by decide)
  · exact Nat.lt_of_le_of_lt h (by decide)
  · exact Nat.lt_of_le_of_lt h (by decide)

/-- What holds of the first 128 characters holds of an ASCII character. -/
theorem forall_ascii {p : Char → Prop} (h : ∀ n < 128, p (Char.ofNat n)) {c : Char}
    (hc : c.toNat < 128) : p c := by
  simpa using h c.toNat hc

/-- Lower case of an ASCII letter; any other character is kept. -/
def lowerChar (c : Char) : Char :=
  if isAsciiUpper c then Char.ofNat (c.toNat + 32) else c

/-- Upper case of an ASCII letter; any other character is kept. -/
def upperChar (c : Char) : Char :=
  if isAsciiLower c then Char.ofNat (c.toNat - 32) else c

theorem lowerChar_of_le {c : Char} (h : 128 ≤ c.toNat) : lowerChar c = c := by
  rw [lowerChar, if_neg]
  intro hupper
  have hlow : c.toNat < 128 :=
    toNat_lt_of_isAsciiAlphanumeric (by simp [isAsciiAlphanumeric, hupper])
  omega

theorem upperChar_of_le {c : Char} (h : 128 ≤ c.toNat) : upperChar c = c := by
  rw [upperChar, if_neg]
  intro hlower
  have hlow : c.toNat < 128 :=
    toNat_lt_of_isAsciiAlphanumeric (by simp [isAsciiAlphanumeric, hlower])
  omega

/-- The value of a run of decimal digits. -/
def decimalValue (s : List Char) : Nat :=
  s.foldl (fun n c => n * 10 + (c.toNat - '0'.toNat)) 0

/-- The value of a hexadecimal digit of either case. -/
def hexDigit? (c : Char) : Option Nat :=
  if isAsciiDigit c then some (c.toNat - '0'.toNat)
  else if 'a' ≤ c && c ≤ 'f' then some (c.toNat - 'a'.toNat + 10)
  else if 'A' ≤ c && c ≤ 'F' then some (c.toNat - 'A'.toNat + 10)
  else none

def lowerAscii (s : List Char) : List Char :=
  s.map lowerChar

/-- The text with its first character in upper case. -/
def capitalizeAscii : List Char → List Char
  | [] => []
  | c :: s => upperChar c :: s

@[simp] theorem length_lowerAscii (s : List Char) : (lowerAscii s).length = s.length :=
  List.length_map ..

end SpecCoverage.Text
