-- SUMMARY: Reading a TOML text into its root table.
import SpecCoverage.Toml.Lexer
import SpecCoverage.Toml.Scalar
import SpecCoverage.Toml.Table

/-!
# Reading TOML

The reader takes one token at a time. It knows the document so far, the header in force, and what
may come next; arrays and inline tables that are still open are kept on a stack, which has a limit,
and so have key paths. Within an inline table a line may end anywhere but inside a key path.
-/
namespace SpecCoverage.Toml

/-- At most so many arrays and inline tables are open at once, and keys stand in one path. -/
def nestingLimit : Nat := 80

/-- What a value is read for, innermost first. -/
inductive Frame where
  /-- The value of a key of the document. -/
  | statement (path : List String) (name : String)
  /-- An item of an array, the items before it last first. -/
  | item (done : List Toml)
  /-- The value of a key of an inline table. -/
  | member (into : Table) (path : List String) (name : String)

/-- Where keys are read. -/
inductive KeyPlace where
  | statement
  | entry (into : Table) (frames : List Frame)
  /-- In a header, under one bracket or two. -/
  | header (double : Bool)

/-- What may come next. Key paths are kept last first. -/
inductive Stage where
  /-- At the front of a line. -/
  | lineStart
  /-- After a statement. -/
  | lineRest
  /-- After a bracket at the front of a line. -/
  | headerStart
  /-- Where a key stands. -/
  | key (place : KeyPlace) (path : List String)
  | keyRest (place : KeyPlace) (path : List String)
  /-- On a line after the key path of an entry. -/
  | entryEquals (into : Table) (frames : List Frame) (path : List String)
  /-- After the first of the two brackets that close a header. -/
  | headerEnd (path : List String)
  | value (frames : List Frame)
  /-- In a value without quotes. -/
  | bare (lexeme : String) (frames : List Frame)
  /-- After a space after a value without quotes, which may stand between a date and a time. -/
  | bareGap (lexeme : String) (frames : List Frame)
  | item (done : List Toml) (frames : List Frame)
  | itemRest (done : List Toml) (frames : List Frame)
  | entry (into : Table) (frames : List Frame)
  | entryRest (into : Table) (frames : List Frame)

/-- What has been read of a document. -/
structure Reading where
  document : Table
  /-- The header in force. -/
  header : List String
  stage : Stage

namespace Reading

def start : Reading := ⟨.root, [], .lineStart⟩

/-- Go on at another stage. -/
def moveTo (r : Reading) (stage : Stage) : Option Reading := some { r with stage := stage }

/-- A value is complete. -/
def complete (r : Reading) (v : Toml) : List Frame → Option Reading
  | [.statement path name] =>
    (assignUnder? r.header path name v r.document).map fun d =>
      { r with document := d, stage := .lineRest }
  | .item done :: frames => r.moveTo (.itemRest (v :: done) frames)
  | .member into path name :: frames =>
    (assign? path name v into).bind fun t => r.moveTo (.entryRest t frames)
  | _ => none

/-- A value without quotes is complete. -/
def completeBare (r : Reading) (lexeme : String) (frames : List Frame) : Option Reading :=
  (ofBare? lexeme).bind fun v => r.complete v frames

/-- Open an array or an inline table, unless too many are open. -/
def openValue (r : Reading) (frames : List Frame) (stage : Stage) : Option Reading :=
  if frames.length ≤ nestingLimit then r.moveTo stage else none

/-- Read the first token of a value. -/
def readValue (r : Reading) (frames : List Frame) (t : Token) : Option Reading :=
  match t with
  | .text s _ => r.complete (.text s) frames
  | .openBracket => r.openValue frames (.item [] frames)
  | .openBrace => r.openValue frames (.entry ⟨.inline, []⟩ frames)
  | .word w => r.moveTo (.bare w frames)
  | _ => none

/-- May the character stand in a key without quotes? -/
def isBareChar (c : Char) : Bool :=
  Text.isAsciiAlphanumeric c || c == '_' || c == '-'

/-- The text of a token that may stand for a key. -/
def keyText? : Token → Option String
  | .word w => if w.toList.all isBareChar then some w else none
  | .text s false => some s
  | _ => none

/-- A key path is complete with the token after it. -/
def endKey (r : Reading) (place : KeyPlace) (path : List String) (t : Token) : Option Reading :=
  if path.length > nestingLimit then none
  else match place, path, t with
  | .statement, name :: path, .equals => r.moveTo (.value [.statement path.reverse name])
  | .entry into frames, name :: path, .equals =>
    r.moveTo (.value (.member into path.reverse name :: frames))
  | .header false, name :: path, .closeBracket =>
    (openTable? path.reverse name r.document).map fun d =>
      ⟨d, (name :: path).reverse, .lineRest⟩
  | .entry into frames, path, .newline => r.moveTo (.entryEquals into frames path)
  | .header true, path, .closeBracket => r.moveTo (.headerEnd path)
  | _, _, _ => none

/-- Read a token after an item of an array. -/
def readItemRest (r : Reading) (done : List Toml) (frames : List Frame) (t : Token) :
    Option Reading :=
  match t with
  | .blank _ | .newline => some r
  | .comma => r.moveTo (.item done frames)
  | .closeBracket => r.complete (.array done.reverse) frames
  | _ => none

/-- Read a token after an entry of an inline table. -/
def readEntryRest (r : Reading) (into : Table) (frames : List Frame) (t : Token) :
    Option Reading :=
  match t with
  | .blank _ | .newline => some r
  | .comma => r.moveTo (.entry into frames)
  | .closeBrace => r.complete into.toml frames
  | _ => none

/-- Read a token after a complete value or at the end of a line. -/
def readRest (r : Reading) (t : Token) : Option Reading :=
  match r.stage with
  | .lineRest =>
    match t with
    | .blank _ => some r
    | .newline => r.moveTo .lineStart
    | _ => none
  | .itemRest done frames => readItemRest r done frames t
  | .entryRest into frames => readEntryRest r into frames t
  | _ => none

/-- Read one token. -/
def step (r : Reading) (t : Token) : Option Reading :=
  match r.stage with
  | .lineStart =>
    match t with
    | .blank _ | .newline => some r
    | .openBracket => r.moveTo .headerStart
    | t => (keyText? t).bind fun k => r.moveTo (.keyRest .statement [k])
  | .headerStart =>
    match t with
    | .blank _ => r.moveTo (.key (.header false) [])
    | .openBracket => r.moveTo (.key (.header true) [])
    | t => (keyText? t).bind fun k => r.moveTo (.keyRest (.header false) [k])
  | .key place path =>
    match t with
    | .blank _ => some r
    | t => (keyText? t).bind fun k => r.moveTo (.keyRest place (k :: path))
  | .keyRest place path =>
    match t with
    | .blank _ => some r
    | .dot => r.moveTo (.key place path)
    | t => r.endKey place path t
  | .headerEnd path =>
    match path, t with
    | name :: path, .closeBracket =>
      (openItem? path.reverse name r.document).map fun d =>
        ⟨d, (name :: path).reverse, .lineRest⟩
    | _, _ => none
  | .entryEquals into frames path =>
    match t with
    | .blank _ | .newline => some r
    | .equals => r.endKey (.entry into frames) path t
    | _ => none
  | .value frames =>
    match t, frames with
    | .blank _, _ | .newline, .member .. :: _ => some r
    | t, frames => r.readValue frames t
  | .bare lexeme frames =>
    match t with
    | .word w => r.moveTo (.bare (lexeme ++ w) frames)
    | .dot => r.moveTo (.bare (lexeme ++ ".") frames)
    | .blank ' ' => r.moveTo (.bareGap lexeme frames)
    | t => (r.completeBare lexeme frames).bind fun r => r.readRest t
  | .bareGap lexeme frames =>
    match t with
    | .word w => r.moveTo (.bare (lexeme ++ " " ++ w) frames)
    | t => (r.completeBare lexeme frames).bind fun r => r.readRest t
  | .item done frames =>
    match t with
    | .blank _ | .newline => some r
    | .closeBracket => r.complete (.array done.reverse) frames
    | t => r.readValue (.item done :: frames) t
  | .entry into frames =>
    match t with
    | .blank _ | .newline => some r
    | .closeBrace => r.complete into.toml frames
    | t => (keyText? t).bind fun k => r.moveTo (.keyRest (.entry into frames) [k])
  | .lineRest | .itemRest .. | .entryRest .. => r.readRest t

/-- The document at the end of the text; the last line needs no line feed. -/
def finish (r : Reading) : Option Table :=
  match r.stage with
  | .lineStart | .lineRest => some r.document
  | .bare lexeme frames | .bareGap lexeme frames =>
    (r.completeBare lexeme frames).bind fun r =>
      match r.stage with
      | .lineRest => some r.document
      | _ => none
  | _ => none

end Reading

/-- The root table of a text that is nothing but TOML. -/
def read? (text : String) : Option Toml :=
  (((tokens? text.toList).bind fun ts => ts.foldlM Reading.step .start).bind Reading.finish).map
    Table.toml

end SpecCoverage.Toml
