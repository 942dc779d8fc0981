-- SUMMARY: JSON values and the tokens of their texts.

/-!
# JSON values

A value keeps the order of the members of its objects, repeated names included, and numbers as they
are written. A string whose escapes leave a surrogate without its partner is a string without a
text.
-/
namespace SpecCoverage

/-- A JSON value. -/
inductive Json where
  | null
  | bool (b : Bool)
  | number (lexeme : String)
  | string (text? : Option String)
  | array (items : List Json)
  | object (members : List (Option String × Json))
  deriving Inhabited

namespace Json

inductive Token where
  | beginArray
  | endArray
  | beginObject
  | endObject
  | colon
  | comma
  | null
  | bool (b : Bool)
  | number (lexeme : String)
  | string (text? : Option String)
  deriving DecidableEq

end Json

end SpecCoverage
