-- SUMMARY: Splitting a TOML text into tokens.
import SpecCoverage.Text.Ascii
import SpecCoverage.Toml.Basic

/-!
# Tokens of a TOML text

The lexer reads one character at a time and knows only where it stands. Comments leave no token, and
quoted texts come out with their escapes resolved. A carriage return stands only before a line feed.
-/
namespace SpecCoverage.Toml

open Text

/-- Characters that end a word and are no punctuation: they open a comment, a text or the end of a
line. -/
def isOpening (c : Char) : Bool :=
  c == '#' || c == '"' || c == '\'' || c == '\r'

/-- Control characters other than the tab stand neither in comments nor in quoted texts. -/
def isForbidden (c : Char) : Bool :=
  (c.toNat < 0x20 && c != '\t') || c.toNat == 0x7F

/-- What a letter after a backslash stands for. -/
def escapes : List (Char × Char) :=
  [('"', '"'), ('\\', '\\'), ('b', '\x08'), ('e', '\x1b'), ('f', '\x0c'), ('n', '\n'), ('r', '\r'),
    ('t', '\t')]

/-- How many digits follow a letter after a backslash. -/
def codeLengths : List (Char × Nat) :=
  [('x', 2), ('u', 4), ('U', 8)]

/-- The character of a code, if it is one. -/
def charOfCode? (n : Nat) : Option Char :=
  if h : n.isValidChar then some (Char.ofNatAux n h) else none

def punctuation? : Char → Option Token
  | ' ' => some (.blank ' ')
  | '\t' => some (.blank '\t')
  | '\n' => some .newline
  | '.' => some .dot
  | '=' => some .equals
  | ',' => some .comma
  | '[' => some .openBracket
  | ']' => some .closeBracket
  | '{' => some .openBrace
  | '}' => some .closeBrace
  | _ => none

-- ---------------------------------------------------------------------------
-- Where the lexer stands
-- ---------------------------------------------------------------------------

/-- Where the lexer stands. Characters are kept last first; escapes are read in texts under double
quotes alone. -/
inductive Place where
  | between
  | word (chars : List Char)
  | comment
  /-- After a carriage return outside quoted texts. -/
  | lineEnd
  /-- After one quotation mark. -/
  | opened (quote : Char)
  /-- After two quotation marks, which are an empty text or open one of several lines. -/
  | doubled (quote : Char)
  | line (quote : Char) (chars : List Char)
  /-- In a text of several lines: how many quotation marks were just read, and whether it has just
  been opened. -/
  | lines (quote : Char) (chars : List Char) (marks : Nat) (fresh : Bool)
  /-- After a carriage return in a text of several lines. -/
  | linesEnd (quote : Char) (chars : List Char) (fresh : Bool)
  | escape (severalLines : Bool) (chars : List Char)
  | code (severalLines : Bool) (chars : List Char) (owed value : Nat)
  /-- After a backslash at the end of a line: whether the line has ended. -/
  | folded (chars : List Char) (ended : Bool)
  | foldedEnd (chars : List Char)

/-- What the lexer has read, last token first. -/
structure LexState where
  tokens : List Token
  place : Place

/-- Close a quoted text. -/
def closeText (tokens : List Token) (chars : List Char) (severalLines : Bool) : List Token :=
  .text (String.ofList chars.reverse) severalLines :: tokens

/-- Continue a text under double quotes. -/
def resume (severalLines : Bool) (chars : List Char) : Place :=
  if severalLines then .lines '"' chars 0 false else .line '"' chars

-- ---------------------------------------------------------------------------
-- Steps
-- ---------------------------------------------------------------------------

def lexBetween (tokens : List Token) (c : Char) : Option LexState :=
  if c = '#' then some ⟨tokens, .comment⟩
  else if c = '\r' then some ⟨tokens, .lineEnd⟩
  else if c = '"' || c = '\'' then some ⟨tokens, .opened c⟩
  else
    match punctuation? c with
    | some t => some ⟨t :: tokens, .between⟩
    | none => some ⟨tokens, .word [c]⟩

def lexLine (tokens : List Token) (quote : Char) (chars : List Char) (c : Char) :
    Option LexState :=
  if c = quote then some ⟨closeText tokens chars false, .between⟩
  else if c = '\\' && quote = '"' then some ⟨tokens, .escape false chars⟩
  else if isForbidden c then none
  else some ⟨tokens, .line quote (c :: chars)⟩

/-- Read a character of a text of several lines that is no quotation mark. -/
def lexLines (tokens : List Token) (quote : Char) (chars : List Char) (fresh : Bool) (c : Char) :
    Option LexState :=
  if c = '\n' then some ⟨tokens, .lines quote (if fresh then chars else c :: chars) 0 false⟩
  else if c = '\r' then some ⟨tokens, .linesEnd quote chars fresh⟩
  else if c = '\\' && quote = '"' then some ⟨tokens, .escape true chars⟩
  else if isForbidden c then none
  else some ⟨tokens, .lines quote (c :: chars) 0 false⟩

/-- Read one character. -/
def lexStep (s : LexState) (c : Char) : Option LexState :=
  match s.place with
  | .between => lexBetween s.tokens c
  | .word chars =>
    if isOpening c || (punctuation? c).isSome then
      lexBetween (.word (String.ofList chars.reverse) :: s.tokens) c
    else some ⟨s.tokens, .word (c :: chars)⟩
  | .comment =>
    if c = '\n' then some ⟨.newline :: s.tokens, .between⟩
    else if c = '\r' then some ⟨s.tokens, .lineEnd⟩
    else if isForbidden c then none
    else some s
  | .lineEnd => if c = '\n' then some ⟨.newline :: s.tokens, .between⟩ else none
  | .opened quote =>
    if c = quote then some ⟨s.tokens, .doubled quote⟩ else lexLine s.tokens quote [] c
  | .doubled quote =>
    if c = quote then some ⟨s.tokens, .lines quote [] 0 true⟩
    else lexBetween (closeText s.tokens [] false) c
  | .line quote chars => lexLine s.tokens quote chars c
  | .lines quote chars marks fresh =>
    if c = quote then
      if marks = 4 then
        some ⟨closeText s.tokens (List.replicate 2 quote ++ chars) true, .between⟩
      else some ⟨s.tokens, .lines quote chars (marks + 1) fresh⟩
    else if 3 ≤ marks then
      lexBetween (closeText s.tokens (List.replicate (marks - 3) quote ++ chars) true) c
    else lexLines s.tokens quote (List.replicate marks quote ++ chars) (fresh && marks = 0) c
  | .linesEnd quote chars fresh =>
    if c = '\n' then
      some ⟨s.tokens, .lines quote (if fresh then chars else '\n' :: '\r' :: chars) 0 false⟩
    else none
  | .escape severalLines chars =>
    match escapes.lookup c, codeLengths.lookup c with
    | some e, _ => some ⟨s.tokens, resume severalLines (e :: chars)⟩
    | none, some n => some ⟨s.tokens, .code severalLines chars n 0⟩
    | none, none =>
      if !severalLines then none
      else if c = '\n' then some ⟨s.tokens, .folded chars true⟩
      else if c = '\r' then some ⟨s.tokens, .foldedEnd chars⟩
      else if c = ' ' || c = '\t' then some ⟨s.tokens, .folded chars false⟩
      else none
  | .code severalLines chars owed value =>
    match hexDigit? c with
    | none => none
    | some d =>
      let value := value * 16 + d
      if owed ≤ 1 then
        (charOfCode? value).map fun e => ⟨s.tokens, resume severalLines (e :: chars)⟩
      else some ⟨s.tokens, .code severalLines chars (owed - 1) value⟩
  | .folded chars ended =>
    if c = ' ' || c = '\t' then some s
    else if c = '\n' then some ⟨s.tokens, .folded chars true⟩
    else if c = '\r' then some ⟨s.tokens, .foldedEnd chars⟩
    else if !ended then none
    else if c = '"' then some ⟨s.tokens, .lines '"' chars 1 false⟩
    else lexLines s.tokens '"' chars false c
  | .foldedEnd chars => if c = '\n' then some ⟨s.tokens, .folded chars true⟩ else none

/-- The tokens at the end of the text; a quoted text must have been closed. -/
def lexEnd (s : LexState) : Option (List Token) :=
  match s.place with
  | .between | .comment => some s.tokens.reverse
  | .word chars => some (Token.word (String.ofList chars.reverse) :: s.tokens).reverse
  | .doubled _ => some (closeText s.tokens [] false).reverse
  | .lines quote chars marks _ =>
    if 3 ≤ marks then
      some (closeText s.tokens (List.replicate (marks - 3) quote ++ chars) true).reverse
    else none
  | _ => none

/-- A byte order mark at the front of a text is passed over. -/
def dropOrderMark : List Char → List Char
  | '\uFEFF' :: s => s
  | s => s

/-- The tokens of a text. -/
def tokens? (s : List Char) : Option (List Token) :=
  ((dropOrderMark s).foldlM lexStep ⟨[], .between⟩).bind lexEnd

end SpecCoverage.Toml
