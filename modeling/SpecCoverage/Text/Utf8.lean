-- SUMMARY: Reading bytes as UTF-8, with replacement characters for what cannot be read.

/-!
# UTF-8

Bytes are read one at a time into characters and pieces that are no character. `decode` puts one
replacement character for each such piece, so every sequence of bytes has a text.
-/
namespace SpecCoverage.Text.Utf8

/-- Stands for bytes that are no UTF-8. -/
def replacement : Char := '\uFFFD'

/-- How many bytes follow the first one, and the range of the second. -/
def lead? (b : UInt8) : Option (Nat × UInt8 × UInt8) :=
  if 0xC2 ≤ b && b ≤ 0xDF then some (1, 0x80, 0xBF)
  else if b == 0xE0 then some (2, 0xA0, 0xBF)
  else if b == 0xED then some (2, 0x80, 0x9F)
  else if 0xE1 ≤ b && b ≤ 0xEF then some (2, 0x80, 0xBF)
  else if b == 0xF0 then some (3, 0x90, 0xBF)
  else if 0xF1 ≤ b && b ≤ 0xF3 then some (3, 0x80, 0xBF)
  else if b == 0xF4 then some (3, 0x80, 0x8F)
  else none

/-- The bits that the first byte of a character of `n + 1` bytes contributes. -/
def leadBits (n : Nat) (b : UInt8) : Nat :=
  b.toNat % Nat.pow 2 (6 - n)

/-- Where a reader stands: between characters, or inside one with its bits so far, the number of
bytes still owed and the range of the next one. -/
inductive Place where
  | between
  | inside (bits owed : Nat) (low high : UInt8)

/-- What has been read, last first; `none` stands for a piece that is no character. -/
structure Progress where
  read : List (Option Char)
  place : Place

/-- Read the first byte of a character. -/
def readFirst (read : List (Option Char)) (b : UInt8) : Progress :=
  if b < 0x80 then ⟨some (Char.ofNat b.toNat) :: read, .between⟩
  else
    match lead? b with
    | some (n, low, high) => ⟨read, .inside (leadBits n b) n low high⟩
    | none => ⟨none :: read, .between⟩

/-- Read one byte. A byte that does not fit ends the piece before it and starts anew. -/
def readByte (p : Progress) (b : UInt8) : Progress :=
  match p.place with
  | .between => readFirst p.read b
  | .inside bits owed low high =>
    if low ≤ b && b ≤ high then
      let bits := bits * 64 + b.toNat % 64
      if owed ≤ 1 then ⟨some (Char.ofNat bits) :: p.read, .between⟩
      else ⟨p.read, .inside bits (owed - 1) 0x80 0xBF⟩
    else readFirst (none :: p.read) b

/-- What was read once the bytes end; an unfinished character is a piece that is none. -/
def Progress.finish (p : Progress) : List (Option Char) :=
  match p.place with
  | .between => p.read.reverse
  | .inside .. => (none :: p.read).reverse

/-- The characters of a byte sequence, `none` for each piece that is no character. A piece is as
long as the start of some character goes. -/
def read (bytes : List UInt8) : List (Option Char) :=
  (bytes.foldl readByte ⟨[], .between⟩).finish

/-- Every piece that is no character becomes one replacement character. -/
def decode (bytes : List UInt8) : List Char :=
  (read bytes).map (·.getD replacement)

/-- The text of an array of bytes: as it stands where the bytes are UTF-8, and decoded with
replacement characters where they are not. -/
def text (bytes : ByteArray) : String :=
  (String.fromUTF8? bytes).getD (String.ofList (decode bytes.toList))

end SpecCoverage.Text.Utf8
