-- SUMMARY: The values of TOML that stand without quotes: flags, numbers, dates and times.
import SpecCoverage.Toml.Basic

/-!
# Bare values

A run of characters without quotes is a flag, a number or a moment, and each has its own grammar.
Numbers are judged and kept as they are written: no setting is a number.
-/
namespace SpecCoverage.Toml

open Text

-- ---------------------------------------------------------------------------
-- Underscores
-- ---------------------------------------------------------------------------

def isHexDigit (c : Char) : Bool :=
  (hexDigit? c).isSome

/-- Does every underscore stand between two digits? The character before the text is `before`. -/
def joinsDigits (isDigit : Char → Bool) (before : Char) : List Char → Bool
  | [] => before != '_'
  | c :: s =>
    (if before == '_' then isDigit c else c != '_' || isDigit before) && joinsDigits isDigit c s

/-- Does every underscore of a number stand between two digits? -/
def isJoined (isDigit : Char → Bool) : List Char → Bool
  | [] => true
  | c :: s => c != '_' && joinsDigits isDigit c s

-- ---------------------------------------------------------------------------
-- Numbers
-- ---------------------------------------------------------------------------

def isDigitOrJoint (c : Char) : Bool :=
  isAsciiDigit c || c == '_'

/-- What follows a digit and the digits and underscores after it. -/
def afterDigits? : List Char → Option (List Char)
  | [] => none
  | c :: s => if isAsciiDigit c then some (s.dropWhile isDigitOrJoint) else none

/-- What follows the whole part of a number; a zero at its front stands alone. -/
def afterWhole? : List Char → Option (List Char)
  | '0' :: s => some s
  | s => afterDigits? s

/-- What follows the fraction of a number, if it has one. -/
def afterFraction? : List Char → Option (List Char)
  | '.' :: s => afterDigits? s
  | s => some s

/-- What follows the exponent of a number, if it has one. -/
def afterExponent? : List Char → Option (List Char)
  | 'e' :: '+' :: s | 'e' :: '-' :: s | 'E' :: '+' :: s | 'E' :: '-' :: s => afterDigits? s
  | 'e' :: s | 'E' :: s => afterDigits? s
  | s => some s

/-- A decimal number without sign. -/
def isDecimal (s : List Char) : Bool :=
  ((afterWhole? s).bind afterFraction?).bind afterExponent? == some [] && isJoined isAsciiDigit s

/-- A number with an underscore after its first digits, and neither point nor exponent: all that
counts is that the underscores stand between digits, which may be hexadecimal. -/
def isJoinedInteger : List Char → Bool
  | [] => false
  | c :: s =>
    isAsciiDigit c && c != '0' &&
      (match s.dropWhile isAsciiDigit with
        | '_' :: r => r.all fun d => !(d == '.' || d == 'e' || d == 'E' || d == ' ')
        | _ => false) &&
      isJoined isHexDigit (c :: s)

/-- The digits of a number after its radix mark. There may be none. -/
def isRadixDigits (isDigit : Char → Bool) (s : List Char) : Bool :=
  s.all (fun c => isDigit c || c == '_') && isJoined isDigit s

/-- A number with a radix mark, which has no sign. -/
def isRadixNumber : List Char → Bool
  | '0' :: 'x' :: s => isRadixDigits isHexDigit s
  | '0' :: 'o' :: s => isRadixDigits (fun c => '0' ≤ c && c ≤ '7') s
  | '0' :: 'b' :: s => isRadixDigits (fun c => c == '0' || c == '1') s
  | _ => false

/-- Infinity, and what is not a number. -/
def isLimit (s : List Char) : Bool :=
  s == "inf".toList || s == "nan".toList

/-- A text without its sign. -/
def unsigned : List Char → List Char
  | '+' :: s | '-' :: s => s
  | s => s

def isNumber (s : List Char) : Bool :=
  isRadixNumber s || isLimit (unsigned s) || isDecimal (unsigned s) || isJoinedInteger (unsigned s)

/-- The value of a run of characters without quotes. -/
def ofBare? (lexeme : String) : Option Toml :=
  if lexeme = "true" then some (.flag true)
  else if lexeme = "false" then some (.flag false)
  else
    let s := lexeme.toList
    if isNumber s then some (.number lexeme) else (Moment.read? s).map .moment

end SpecCoverage.Toml
