-- SUMMARY: Reading a JSON text into a value.
import SpecCoverage.Json.Lexer

/-!
# Reading JSON

The reader keeps the arrays and objects that are still open on a stack, so a text may nest as deeply
as it likes. It knows at each token what may come next.
-/
namespace SpecCoverage.Json

/-- An array or object that is still open, what it holds so far last first. -/
inductive Frame where
  | items (done : List Json)
  /-- The value of the member called `name` is being read. -/
  | member (done : List (Option String × Json)) (name : Option String)

/-- What may come next, with the frames around it. -/
inductive ReadState where
  | value (frames : List Frame)
  /-- Right after `[`. -/
  | itemOrEnd (frames : List Frame)
  /-- Right after an opening brace. -/
  | nameOrEnd (frames : List Frame)
  /-- After a comma in an object. -/
  | name (done : List (Option String × Json)) (frames : List Frame)
  | colon (done : List (Option String × Json)) (name : Option String) (frames : List Frame)
  /-- After a value. -/
  | next (v : Json) (frames : List Frame)

/-- Read the first token of a value. -/
def readValue (frames : List Frame) : Token → Option ReadState
  | .null => some (.next .null frames)
  | .bool b => some (.next (.bool b) frames)
  | .number n => some (.next (.number n) frames)
  | .string s => some (.next (.string s) frames)
  | .beginArray => some (.itemOrEnd frames)
  | .beginObject => some (.nameOrEnd frames)
  | _ => none

/-- Read one token. -/
def readStep : ReadState → Token → Option ReadState
  | .value fs, t => readValue fs t
  | .itemOrEnd fs, .endArray => some (.next (.array []) fs)
  | .itemOrEnd fs, t => readValue (.items [] :: fs) t
  | .nameOrEnd fs, .endObject => some (.next (.object []) fs)
  | .nameOrEnd fs, .string n => some (.colon [] n fs)
  | .name done fs, .string n => some (.colon done n fs)
  | .colon done n fs, .colon => some (.value (.member done n :: fs))
  | .next v (.items done :: fs), .comma => some (.value (.items (v :: done) :: fs))
  | .next v (.items done :: fs), .endArray => some (.next (.array (v :: done).reverse) fs)
  | .next v (.member done n :: fs), .comma => some (.name ((n, v) :: done) fs)
  | .next v (.member done n :: fs), .endObject =>
    some (.next (.object ((n, v) :: done).reverse) fs)
  | _, _ => none

/-- The value that a list of tokens spells. -/
def ofTokens? (tokens : List Token) : Option Json :=
  match tokens.foldlM readStep (.value []) with
  | some (.next v []) => some v
  | _ => none

/-- The value of a text that is nothing but JSON. -/
def read? (text : String) : Option Json :=
  (tokens? text.toList).bind ofTokens?

end SpecCoverage.Json
