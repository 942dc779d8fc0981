-- SUMMARY: The report that a validator document states.
import SpecCoverage.Report.Basic
import SpecCoverage.Report.Document

/-!
# From document to report

Of several results for one language of a feature the first holds. The entries of a cross reference
under all spellings of a language are one record: its tests are collected and ordered, and its
description is the first one that is not empty.
-/
namespace SpecCoverage

namespace LanguageEntry

/-- The scenarios that a result flags, by its methods or its warnings. -/
def flagged (e : LanguageEntry) : SortedSet String :=
  .ofList (e.flaggedMethods ++ e.warnings.filterMap fun w => missingMethod? w.toList)

/-- A language has implemented a feature when its test file was found, no step is missing, some step
is implemented, and nothing is flagged. -/
def verdict (c : OutputContext) (e : LanguageEntry) : LanguageVerdict where
  language := c.policy.resolve e.language
  implemented :=
    e.testFileFound && e.missingSteps.isEmpty && !e.implementedSteps.isEmpty && e.flagged.isEmpty
  sourcePath? := if e.testFileFound then e.testFilePath?.map c.relativize else none
  flagged := e.flagged
  unflagged := if e.testFileFound then .pass else .fail

end LanguageEntry

/-- The verdict that the results for a feature state. -/
def FeatureEntry.verdict (c : OutputContext) (e : FeatureEntry) : FeatureVerdict where
  path := c.relativize e.featureFile
  languages := .ofListFirst <| e.languages.map fun l =>
    let v := l.verdict c
    (v.language, v)

-- ---------------------------------------------------------------------------
-- Cross references
-- ---------------------------------------------------------------------------

/-- A location needs both a file and a line. -/
def location? (c : OutputContext) (file? : Option String) (line? : Option Nat) :
    Option SourceLocation :=
  match file?, line? with
  | some file, some line => some ⟨c.relativize file, line⟩
  | _, _ => none

def ImplementationEntry.implementation (c : OutputContext) (e : ImplementationEntry) :
    Implementation where
  testMethod := e.testMethod
  testFile := c.relativize e.testFile
  testLine? := e.testLine?
  oldBehavior? := location? c e.oldFile? e.oldLine?
  newBehavior? := location? c e.newFile? e.newLine?

namespace CrossEntry

/-- All entries by record, with the language each stands under: in the order of the language names
as they are written, then of the entries. -/
def entriesById (c : OutputContext) (e : CrossEntry) :
    SortedMap String (List (Language × RecordEntry)) :=
  .group <| e.byLanguage.entries.flatMap fun (name, entries) =>
    entries.map fun r => (r.id, (c.policy.resolve name, r))

/-- The first description among the entries that is not empty, else the one listed for the
record. -/
def describe (e : CrossEntry) (id : String) (entries : List (Language × RecordEntry)) : String :=
  ((entries.map (·.2.description)).find? (· ≠ "")).getD ((e.descriptions.get? id).getD "")

/-- The tests of each language, each once and in order. -/
def implementations (c : OutputContext) (entries : List (Language × RecordEntry)) :
    SortedMap Language (List Implementation) :=
  (SortedMap.group entries).mapValues fun _ rs =>
    (SortedSet.ofList (rs.flatMap fun r => r.implementations.map (·.implementation c))).toList

/-- The records of a kind, by identifier. -/
def records (c : OutputContext) (kind : RecordKind) (e : CrossEntry) : List CrossRecord :=
  (e.entriesById c).entries.map fun (id, entries) =>
    { kind := kind
      id := id
      description := e.describe id entries
      implementations := implementations c entries }

end CrossEntry

namespace ReportDocument

def crossEntry? (d : ReportDocument) : RecordKind → Option CrossEntry
  | .breakingChange => d.breakingChanges?
  | .behaviorDifference => d.behaviorDifferences?

/-- The report that a document states. Both kinds are listed, with no records where the document has
none. -/
def report (c : OutputContext) (d : ReportDocument) : Report where
  verdicts := d.features.map (·.verdict c)
  crossReferences := .ofList <| RecordKind.all.map fun k =>
    (k, ((d.crossEntry? k).map (·.records c k)).getD [])

end ReportDocument

/-- Read a JSON output. -/
def Report.ofJson (c : OutputContext) (output : String) : Except OutputError Report :=
  match ReportDocument.read? output with
  | some d => .ok (d.report c)
  | none => .error .document

end SpecCoverage
