-- SUMMARY: Markup trees and how they are written, text escaped at the leaves.

/-!
# Markup

A page is a tree of elements. Text and attribute values are escaped when the tree is written, so
nothing that a page shows can be taken for markup. `verbatim` is for what the page itself brings
along: its style, its script, and the anchors that name its parts.
-/
namespace SpecCoverage

namespace Markup

/-- The entity of a character that means something in markup, or the character itself. -/
def escapeChar (c : Char) : List Char :=
  match c with
  | '&' => "&amp;".toList
  | '<' => "&lt;".toList
  | '>' => "&gt;".toList
  | '"' => "&quot;".toList
  | '\'' => "&#39;".toList
  | c => [c]

def escapeChars (s : List Char) : List Char :=
  s.flatMap escapeChar

theorem escapeChars_append (s t : List Char) :
    escapeChars (s ++ t) = escapeChars s ++ escapeChars t :=
  List.flatMap_append

/-- The text with the five characters that mean something in markup as entities. -/
def escape (s : String) : String :=
  String.ofList (escapeChars s.toList)

end Markup

/-- An inserted value. -/
inductive MarkupValue where
  /-- Escaped when written. -/
  | text (s : String)
  /-- Written as it is. -/
  | verbatim (s : String)
  deriving DecidableEq

def MarkupValue.written : MarkupValue → String
  | .text s => Markup.escape s
  | .verbatim s => s

structure Attribute where
  name : String
  value : MarkupValue
  deriving DecidableEq

/-- An attribute with its name and value. -/
def Attribute.written (a : Attribute) : String :=
  " " ++ a.name ++ "=\"" ++ a.value.written ++ "\""

/-- A markup tree. -/
inductive Markup where
  | value (v : MarkupValue)
  | element (tag : String) (attributes : List Attribute) (children : List Markup)
  /-- An element that has no content and no end tag. -/
  | void (tag : String) (attributes : List Attribute)

namespace Markup

def text (s : String) : Markup := .value (.text s)

def verbatim (s : String) : Markup := .value (.verbatim s)

/-- A line break between elements. -/
def newline : Markup := verbatim "\n"

/-- The start tag of an element. -/
def startTag (tag : String) (attributes : List Attribute) : String :=
  "<" ++ tag ++ String.join (attributes.map Attribute.written) ++ ">"

/-- The end tag of an element. -/
def endTag (tag : String) : String :=
  "</" ++ tag ++ ">"

mutual

/-- The pieces of the text of a tree, in order. -/
def pieces : Markup → List String
  | .value v => [v.written]
  | .element tag attributes children =>
    startTag tag attributes :: (piecesOfAll children ++ [endTag tag])
  | .void tag attributes => [startTag tag attributes]

def piecesOfAll : List Markup → List String
  | [] => []
  | m :: ms => pieces m ++ piecesOfAll ms

end

/-- The text of trees that follow each other. -/
def write (ms : List Markup) : String :=
  String.join (piecesOfAll ms)

-- ---------------------------------------------------------------------------
-- Attributes in a tree
-- ---------------------------------------------------------------------------

mutual

/-- The values of an attribute throughout a tree, in order. -/
def valuesOf (name : String) : Markup → List MarkupValue
  | .value _ => []
  | .element _ attributes children =>
    (attributes.filter (·.name == name)).map (·.value) ++ valuesOfAll name children
  | .void _ attributes => (attributes.filter (·.name == name)).map (·.value)

def valuesOfAll (name : String) : List Markup → List MarkupValue
  | [] => []
  | m :: ms => valuesOf name m ++ valuesOfAll name ms

end

/-- An attribute whose value is escaped. -/
def attr (name value : String) : Attribute :=
  ⟨name, .text value⟩

/-- An attribute whose value is written as it is. -/
def attrVerbatim (name value : String) : Attribute :=
  ⟨name, .verbatim value⟩

end Markup

end SpecCoverage
