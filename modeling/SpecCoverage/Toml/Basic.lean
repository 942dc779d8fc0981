-- SUMMARY: TOML values, the tables of a document, and the tokens of its text.
import SpecCoverage.Toml.Moment

/-!
# TOML values

A table remembers how it came about, since that decides whether it may still grow: one that a header
names is closed for dotted keys, one that dotted keys made is closed for headers, and an inline
table is closed for good. Numbers are kept as they are written.
-/
namespace SpecCoverage

/-- How a table came about. -/
inductive Toml.Origin where
  /-- Named by a header. -/
  | header
  /-- On the way to a table that a header names. -/
  | implied
  /-- On the way to a value under dotted keys. -/
  | dotted
  /-- Written between braces. -/
  | inline
  deriving DecidableEq

/-- A TOML value. -/
inductive Toml where
  | text (s : String)
  | flag (b : Bool)
  | number (lexeme : String)
  | moment (m : Toml.Moment)
  | array (items : List Toml)
  | table (origin : Toml.Origin) (entries : List (String × Toml))
  /-- The tables of repeated headers in double brackets, last first. -/
  | tables (items : List (List (String × Toml)))
  deriving Inhabited

namespace Toml

inductive Token where
  /-- A space or a tab. -/
  | blank (c : Char)
  | newline
  | dot
  | equals
  | comma
  | openBracket
  | closeBracket
  | openBrace
  | closeBrace
  /-- A run of characters that are no punctuation. -/
  | word (w : String)
  /-- A quoted text; one of several lines is no key. -/
  | text (s : String) (severalLines : Bool)
  deriving DecidableEq

end Toml

end SpecCoverage
