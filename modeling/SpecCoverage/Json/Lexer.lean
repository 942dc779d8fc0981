-- SUMMARY: Splitting a JSON text into tokens.
import SpecCoverage.Json.Basic
import SpecCoverage.Text.Ascii

/-!
# Tokens of a JSON text

The lexer reads one character at a time and knows only where it stands. Words and numbers are the
longest runs of characters that may stand in one, and are judged as a whole.
-/
namespace SpecCoverage.Json

open Text

-- ---------------------------------------------------------------------------
-- Numbers and words
-- ---------------------------------------------------------------------------

/-- What follows one digit or more. -/
def digits? : List Char → Option (List Char)
  | [] => none
  | c :: s => if isAsciiDigit c then some (s.dropWhile isAsciiDigit) else none

/-- What follows an integer without sign; a zero stands alone. -/
def integer? : List Char → Option (List Char)
  | '0' :: s => some s
  | s => digits? s

/-- What follows a fraction, if there is one. -/
def fraction? : List Char → Option (List Char)
  | '.' :: s => digits? s
  | s => some s

/-- What follows an exponent, if there is one. -/
def exponent? : List Char → Option (List Char)
  | c :: s =>
    if c = 'e' || c = 'E' then
      match s with
      | '+' :: r | '-' :: r => digits? r
      | r => digits? r
    else some (c :: s)
  | [] => some []

/-- Is the whole text a number? -/
def isNumber (s : List Char) : Bool :=
  let s := match s with
    | '-' :: r => r
    | r => r
  ((integer? s).bind fraction?).bind exponent? == some []

/-- The token of a word or number. -/
def atom? (s : List Char) : Option Token :=
  if s = "null".toList then some .null
  else if s = "true".toList then some (.bool true)
  else if s = "false".toList then some (.bool false)
  else if isNumber s then some (.number (String.ofList s))
  else none

-- ---------------------------------------------------------------------------
-- Strings
-- ---------------------------------------------------------------------------

def isHighSurrogate (n : Nat) : Bool := 0xD800 ≤ n && n ≤ 0xDBFF

def isLowSurrogate (n : Nat) : Bool := 0xDC00 ≤ n && n ≤ 0xDFFF

/-- The text of code units, last first, with the surrogates in pairs. `text` follows it. -/
def assemble (text : List Char) : List Nat → Option (List Char)
  | [] => some text
  | [n] =>
    if isHighSurrogate n || isLowSurrogate n then none else some (Char.ofNat n :: text)
  | n :: m :: units =>
    if isLowSurrogate n then
      if isHighSurrogate m then
        assemble (Char.ofNat (0x10000 + (m - 0xD800) * 0x400 + (n - 0xDC00)) :: text) units
      else none
    else if isHighSurrogate n then none
    else assemble (Char.ofNat n :: text) (m :: units)

/-- What a letter after a backslash stands for. -/
def escapes : List (Char × Char) :=
  [('"', '"'), ('\\', '\\'), ('/', '/'), ('b', '\x08'), ('f', '\x0c'), ('n', '\n'), ('r', '\r'),
    ('t', '\t')]

-- ---------------------------------------------------------------------------
-- The lexer
-- ---------------------------------------------------------------------------

/-- Where the lexer stands. Code units and characters are kept last first. -/
inductive Place where
  | between
  | atom (chars : List Char)
  | string (units : List Nat)
  | escape (units : List Nat)
  /-- In a `\u` escape: digits to come, and the value of those read. -/
  | code (units : List Nat) (owed value : Nat)

/-- What the lexer has read, last token first. -/
structure LexState where
  tokens : List Token
  place : Place

def isAtomChar (c : Char) : Bool :=
  isAsciiAlphanumeric c || c == '+' || c == '-' || c == '.'

def punctuation? : Char → Option Token
  | '[' => some .beginArray
  | ']' => some .endArray
  | '{' => some .beginObject
  | '}' => some .endObject
  | ':' => some .colon
  | ',' => some .comma
  | _ => none

/-- Read a character between tokens. -/
def lexBetween (tokens : List Token) (c : Char) : Option LexState :=
  if c = ' ' || c = '\t' || c = '\n' || c = '\r' then some ⟨tokens, .between⟩
  else if c = '"' then some ⟨tokens, .string []⟩
  else if isAtomChar c then some ⟨tokens, .atom [c]⟩
  else (punctuation? c).map fun t => ⟨t :: tokens, .between⟩

/-- Read one character. -/
def lexStep (s : LexState) (c : Char) : Option LexState :=
  match s.place with
  | .between => lexBetween s.tokens c
  | .atom chars =>
    if isAtomChar c then some ⟨s.tokens, .atom (c :: chars)⟩
    else
      match atom? chars.reverse with
      | none => none
      | some t => lexBetween (t :: s.tokens) c
  | .string units =>
    if c = '"' then
      some ⟨.string ((assemble [] units).map String.ofList) :: s.tokens, .between⟩
    else if c = '\\' then some ⟨s.tokens, .escape units⟩
    else if c.toNat < 0x20 then none
    else some ⟨s.tokens, .string (c.toNat :: units)⟩
  | .escape units =>
    if c = 'u' then some ⟨s.tokens, .code units 4 0⟩
    else (escapes.lookup c).map fun e => ⟨s.tokens, .string (e.toNat :: units)⟩
  | .code units owed value =>
    (hexDigit? c).map fun d =>
      let value := value * 16 + d
      if owed ≤ 1 then ⟨s.tokens, .string (value :: units)⟩
      else ⟨s.tokens, .code units (owed - 1) value⟩

/-- The tokens at the end of the text; a string must have been closed. -/
def lexEnd (s : LexState) : Option (List Token) :=
  match s.place with
  | .between => some s.tokens.reverse
  | .atom chars => (atom? chars.reverse).map fun t => (t :: s.tokens).reverse
  | _ => none

/-- The tokens of a text. -/
def tokens? (s : List Char) : Option (List Token) :=
  (s.foldlM lexStep ⟨[], .between⟩).bind lexEnd

end SpecCoverage.Json
