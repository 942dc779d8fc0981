-- SUMMARY: The report page as a markup tree and as text.
import SpecCoverage.Page.Assets
import SpecCoverage.Page.Markup
import SpecCoverage.Page.View

/-!
# The report page

Each tab is written from its part of the view. A matrix without rows or languages gives a page that
says so.
-/
namespace SpecCoverage.Page

open Markup

-- ---------------------------------------------------------------------------
-- Small elements
-- ---------------------------------------------------------------------------

def classed (tag className : String) (children : List Markup) : Markup :=
  .element tag [attr "class" className] children

def plain (tag : String) (children : List Markup) : Markup :=
  .element tag [] children

/-- A heading with the line break after it. -/
def heading (tag label : String) : List Markup :=
  [plain tag [text label], newline]

/-- A paragraph with the line break after it. -/
def paragraph (content : String) : List Markup :=
  [plain "p" [text content], newline]

def FeatureLink.html (l : FeatureLink) : Markup :=
  .element "a" [attrVerbatim "href" ("#" ++ l.anchor)] [text l.title]

/-- The links to records, small and high, with commas between them. -/
def superscripts (links : List RecordLink) : List Markup :=
  if links.isEmpty then []
  else
    [classed "sup" "xref-links" <| ((links.map fun l =>
      .element "a"
        [attrVerbatim "href" ("#" ++ l.anchor), attr "title" (l.kind.label ++ ": " ++ l.id)]
        [text (Link.shortId l.id)]).intersperse (text ","))]

def axisHeaders (axis : List String) : List Markup :=
  axis.map fun l => plain "th" [text l]

/-- A table with its head and body. -/
def table (attributes : List Attribute) (headers rows : List Markup) : List Markup :=
  [.element "table" attributes
      [newline, plain "thead" [plain "tr" headers], newline,
        plain "tbody" (newline :: rows), newline],
    newline]

/-- A dash for what is not there. -/
def dash (className : String) : Markup :=
  classed "span" className [text "-"]

-- ---------------------------------------------------------------------------
-- Overview
-- ---------------------------------------------------------------------------

def Mark.html : Mark → Markup
  | .implemented => classed "span" "status-pass" [text "✓"]
  | .incomplete => classed "span" "status-fail" [text "✗"]
  | .noResult => dash "status-na"

def OverviewRow.html (r : OverviewRow) : List Markup :=
  [plain "tr" (plain "td" [r.link.html] :: r.cells.map fun c =>
      classed "td" "status" (c.mark.html :: superscripts c.links)),
    newline]

def OverviewFolder.html (columns : Nat) (f : OverviewFolder) : List Markup :=
  [classed "tr" "folder-row"
      [.element "td" [attr "colspan" (toString columns)] [text f.banner]],
    newline] ++ f.rows.flatMap (·.html)

def overviewLegend : List Markup :=
  [classed "div" "legend"
      [plain "span" [classed "span" "status-pass" [text "✓"], text " implemented"],
        plain "span" [classed "span" "status-fail" [text "✗"], text " incomplete"],
        plain "span" [dash "status-na", text " no result"],
        plain "span" [classed "sup" "xref-links" [text "1"], text " cross reference"]],
    newline]

def SummaryCard.html (c : SummaryCard) : List Markup :=
  [classed "div" "summary-card"
      [plain "h3" [text c.language],
        classed "div" ("value " ++ c.styleName) [text c.value],
        classed "div" "detail"
          [text (toString c.implemented ++ " / " ++ toString c.total ++ " scenarios")]],
    newline]

def overviewTab (v : View) : List Markup :=
  heading "h2" "Coverage by Feature" ++ overviewLegend ++
    table [attr "class" "coverage-table"] (plain "th" [text "Feature"] :: axisHeaders v.axis)
      (v.overview.flatMap (·.html (v.axis.length + 1))) ++
    heading "h2" "Coverage by Language" ++
    [classed "div" "summary-cards" (newline :: v.cards.flatMap (·.html)), newline]

-- ---------------------------------------------------------------------------
-- Single-language features
-- ---------------------------------------------------------------------------

def scenarioItem (name : String) (tags : List String) : List Markup :=
  [plain "li" <| text name ::
      (if tags.isEmpty then []
       else [text " ", classed "span" "tags" [text (" ".intercalate tags)]]),
    newline]

def OwnedFeature.html (f : OwnedFeature) : List Markup :=
  [classed "details" "feature"
      [plain "summary"
          [text (if f.implemented then "✅ " else "❌ "), f.link.html, text " ",
            classed "span" "path" [text ("(" ++ toString f.scenarioCount ++ " scenarios)")]],
        newline,
        classed "ul" "scenario-list"
          (newline :: f.scenarios.flatMap fun (name, tags) => scenarioItem name tags),
        newline],
    newline]

def OwnerSection.html (s : OwnerSection) : List Markup :=
  heading "h3" ("🔒 " ++ s.banner ++ " (" ++ toString s.count ++ " features)") ++
    s.features.flatMap (·.html)

def ownedTab (v : View) : List Markup :=
  heading "h2" "🔒 Language-Specific Tests" ++
    (if v.owned.isEmpty then paragraph "No language-specific tests found."
     else v.owned.flatMap (·.html))

-- ---------------------------------------------------------------------------
-- Records
-- ---------------------------------------------------------------------------

/-- A linked place, or a dash. -/
def locationCell : Option SourceLink → Markup
  | some s => .element "a" [attr "class" "path", attr "href" s.href] [text s.shown]
  | none => dash "status-na"

def RecordTest.html (t : RecordTest) : List Markup :=
  [plain "tr"
      [plain "td" [text t.language],
        plain "td"
          [.element "a" [attr "href" t.test.href] [plain "code" [text t.method]], text " ",
            classed "span" "path" [text t.test.shown]],
        plain "td" [locationCell t.newBehavior?],
        plain "td" [locationCell t.oldBehavior?]],
    newline]

def RecordBlock.html (b : RecordBlock) : List Markup :=
  [.element "details" [attr "class" "xref", attrVerbatim "id" b.anchor] <|
      [plain "summary" [classed "span" "xref-id" [text b.id], text b.description], newline] ++
        (if b.tests.isEmpty then paragraph "No implementations recorded."
         else
          table []
            [plain "th" [text "Language"], plain "th" [text "Test"],
              plain "th" [text "New behavior"], plain "th" [text "Old behavior"]]
            (b.tests.flatMap (·.html))),
    newline]

def RecordTab.html (t : RecordTab) : List Markup :=
  heading "h2" t.kind.heading ++
    (if t.blocks.isEmpty then
      paragraph ("No " ++ String.ofList (Text.lowerAscii t.kind.heading.toList) ++ " recorded.")
     else t.blocks.flatMap (·.html))

-- ---------------------------------------------------------------------------
-- Breakdown
-- ---------------------------------------------------------------------------

def BreakdownCell.html : BreakdownCell → List Markup
  | .notNeeded =>
    [.element "span" [attr "class" "status-excluded", attr "title" "not needed"] [text "-"]]
  | .todo => [classed "span" "status-todo" [text "TODO"]]
  | .noResult => [classed "span" "status-na" [text "N/A"]]
  | .result passed source? links =>
    let glyph := text (if passed then "✅" else "❌")
    (match source? with
      | some s => .element "a" [attr "href" s.href, attr "title" s.shown] [glyph]
      | none => glyph) :: superscripts links

def BreakdownRow.html (r : BreakdownRow) : List Markup :=
  [plain "tr"
      (plain "td"
          [text r.scenario,
            classed "span"
              ("test-level-" ++ String.ofList (Text.lowerAscii r.level.label.toList))
              [text r.level.label]] ::
        r.cells.map fun c => classed "td" "status" c.html),
    newline]

def BreakdownBlock.html (axis : List String) (b : BreakdownBlock) : List Markup :=
  [.element "details" [attr "class" "feature", attrVerbatim "id" b.link.anchor] <|
      [plain "summary" [text b.link.title, text " ", classed "span" "path" [text b.path]],
        newline] ++
        (if b.rows.isEmpty then paragraph "No scenarios."
         else
          table [] (plain "th" [text "Scenario"] :: axisHeaders axis)
            (b.rows.flatMap (·.html))),
    newline]

def BreakdownFolder.html (axis : List String) (f : BreakdownFolder) : List Markup :=
  heading "h3" f.title ++ f.blocks.flatMap (·.html axis)

def breakdownLegend : List Markup :=
  [classed "div" "legend"
      [plain "span" [text "✅ passing"], plain "span" [text "❌ failing"],
        plain "span" [classed "span" "status-todo" [text "TODO"], text " expected but absent"],
        plain "span" [classed "span" "status-na" [text "N/A"], text " no result"],
        plain "span" [dash "status-excluded", text " not needed"]],
    newline]

def breakdownTab (v : View) : List Markup :=
  heading "h2" "Detailed Breakdown" ++ breakdownLegend ++
    v.breakdown.flatMap (·.html v.axis)

-- ---------------------------------------------------------------------------
-- Missing pairs
-- ---------------------------------------------------------------------------

def MissingItem.html (i : MissingItem) : List Markup :=
  [plain "li" [i.link.html, text " ", classed "span" "path" [text i.path]], newline]

def MissingSection.html (s : MissingSection) : List Markup :=
  heading "h3" (s.language ++ " (" ++ toString s.count ++ ")") ++
    [classed "ul" "missing-list" (newline :: s.items.flatMap (·.html)), newline]

def missingTab (v : View) : List Markup :=
  heading "h2" "Missing Implementations" ++
    (if v.complete then paragraph "No missing implementations found! ✅"
     else v.missing.flatMap (·.html))

-- ---------------------------------------------------------------------------
-- The document
-- ---------------------------------------------------------------------------

/-- A tab: the name of its panel, its label, and what the panel holds. -/
structure Tab where
  id : String
  label : String
  content : List Markup

def RecordTab.tab (t : RecordTab) : Tab where
  id := t.kind.slug ++ "-tab"
  label := "📋 " ++ t.kind.heading ++ " (" ++ toString t.count ++ ")"
  content := t.html

/-- The tabs in their order. -/
def tabs (v : View) : List Tab :=
  [⟨"overview-tab", "📊 Shared Tests", overviewTab v⟩,
    ⟨"language-tab", "🔒 Language-Specific (" ++ toString v.ownedCount ++ ")", ownedTab v⟩] ++
  v.records.map (·.tab) ++
  [⟨"details-tab", "🔍 Detailed Breakdown", breakdownTab v⟩,
    ⟨"missing-tab", "⚠️ Missing Implementations (" ++ toString v.missingCount ++ ")",
      missingTab v⟩]

/-- The class of the parts of a tab; the first tab is the one that is shown. -/
def tabClass (base : String) (index : Nat) : String :=
  if index = 0 then base ++ " active" else base

def Tab.button (t : Tab) (index : Nat) : List Markup :=
  [.element "button" [attr "class" (tabClass "tab-button" index), attr "data-tab" t.id]
      [text t.label],
    newline]

def Tab.panel (t : Tab) (index : Nat) : List Markup :=
  [.element "div" [attr "id" t.id, attr "class" (tabClass "tab-content" index)]
      (newline :: t.content),
    newline]

/-- What the body of a page shows. -/
def body (title : String) (v : View) : List Markup :=
  heading "h1" title ++
    [classed "div" "tabs" <|
        [newline,
          classed "div" "tab-buttons"
            (newline :: (tabs v).zipIdx.flatMap fun (t, i) => t.button i),
          newline] ++ (tabs v).zipIdx.flatMap fun (t, i) => t.panel i,
      newline,
      plain "footer" [text "Generated by ud-coverage"],
      newline]

/-- The document around a body. -/
def document (title : String) (content : List Markup) : List Markup :=
  [verbatim "<!DOCTYPE html>\n",
    .element "html" [attr "lang" "en"]
      [newline,
        plain "head"
          [newline, .void "meta" [attr "charset" "utf-8"], newline,
            .void "meta"
              [attr "name" "viewport", attr "content" "width=device-width, initial-scale=1"],
            newline, plain "title" [text title], newline,
            plain "style" [verbatim ("\n" ++ style)], newline],
        newline,
        plain "body" (newline :: content ++ [plain "script" [verbatim ("\n" ++ script)], newline]),
        newline],
    newline]

/-- The page of a matrix as a tree. -/
def html (o : Options) (m : Matrix) : List Markup :=
  document o.title <|
    if m.isEmpty then heading "h1" "No features found"
    else body o.title (.ofMatrix o.linkBase? m)

/-- The page of a matrix as text. -/
def render (o : Options) (m : Matrix) : String :=
  Markup.write (html o m)

end SpecCoverage.Page
