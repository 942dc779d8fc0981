-- SUMMARY: White space: which characters are blank, trimming, and splitting a text into words.

/-!
# Blank characters

`isBlank` is the Unicode property White_Space. Trimming and splitting into words use it, so a
no-break space or an ideographic space separates words as a plain space does.
-/
namespace SpecCoverage.Text

/-- The Unicode property White_Space. -/
def isBlank (c : Char) : Bool :=
  let n := c.toNat
  (9 ≤ n && n ≤ 13) || n == 0x20 || n == 0x85 || n == 0xA0 || n == 0x1680 ||
    (0x2000 ≤ n && n ≤ 0x200A) || n == 0x2028 || n == 0x2029 || n == 0x202F || n == 0x205F ||
    n == 0x3000

-- ---------------------------------------------------------------------------
-- Trimming
-- ---------------------------------------------------------------------------

def trimStart (s : List Char) : List Char :=
  s.dropWhile isBlank

def trimEnd (s : List Char) : List Char :=
  (trimStart s.reverse).reverse

/-- The text without the blanks at either end. -/
def trim (s : List Char) : List Char :=
  trimEnd (trimStart s)

@[simp] theorem trim_nil : trim [] = [] := rfl

-- ---------------------------------------------------------------------------
-- Words
-- ---------------------------------------------------------------------------

/-- Prepend a character to the first word of a list of words. -/
def consWord (c : Char) : List (List Char) → List (List Char)
  | [] => [[c]]
  | w :: ws => (c :: w) :: ws

/-- Split at the characters that satisfy `p`; the pieces between them may be empty. -/
def splitAtChars (p : Char → Bool) (s : List Char) : List (List Char) :=
  s.foldr (fun c ws => if p c then [] :: ws else consWord c ws) [[]]

@[simp] theorem splitAtChars_nil (p : Char → Bool) : splitAtChars p [] = [[]] := rfl

theorem splitAtChars_cons (p : Char → Bool) (c : Char) (s : List Char) :
    splitAtChars p (c :: s) =
      if p c then [] :: splitAtChars p s else consWord c (splitAtChars p s) := rfl

/-- The maximal runs of characters that are not blank. -/
def words (s : List Char) : List (List Char) :=
  (splitAtChars isBlank s).filter (!·.isEmpty)

end SpecCoverage.Text
