-- SUMMARY: The report of a document does not depend on how the document is presented.
import SpecCoverage.Proofs.JsonShapes
import SpecCoverage.Proofs.PrintedJson
import SpecCoverage.Report.OfDocument

/-!
# Presentation of report documents

Each record of a document has a shape that its decoder respects. So the report stays the same when
members change places, fields are given under other spellings and members are added that are no
fields, in any record of the document and any number of times; only the name of an added member has
to be a text.
-/
namespace SpecCoverage

open Json Shape

-- ---------------------------------------------------------------------------
-- The records of a document
-- ---------------------------------------------------------------------------

namespace ImplementationEntry

def shape : Shape :=
  .record schema [.plain, .plain, .plain, .plain, .plain, .plain, .plain]

theorem respects_ofJson? : Respects shape ofJson? := by
  refine respects_record (by decide) rfl fun h => ?_
  obtain _ | ⟨hmethod, _ | ⟨hfile, _ | ⟨hline, _ | ⟨hnewFile, _ | ⟨hnewLine, _ | ⟨holdFile,
    _ | ⟨holdLine, ⟨⟩⟩⟩⟩⟩⟩⟩⟩ := h
  simp only [ofFields?, hmethod.required (respects_plain _), hfile.required (respects_plain _),
    hline.defaulted (respects_plain _), hnewFile.defaulted (respects_plain _),
    hnewLine.defaulted (respects_plain _), holdFile.defaulted (respects_plain _),
    holdLine.defaulted (respects_plain _)]

end ImplementationEntry

namespace RecordEntry

def shape : Shape :=
  .record schema [.plain, .plain, .list ImplementationEntry.shape]

theorem respects_ofJson? : Respects shape ofJson? := by
  refine respects_record (by decide) rfl fun h => ?_
  obtain _ | ⟨hid, _ | ⟨hdescription, _ | ⟨himplementations, ⟨⟩⟩⟩⟩ := h
  simp only [ofFields?, hid.required (respects_plain _), hdescription.defaulted (respects_plain _),
    himplementations.defaulted (respects_list ImplementationEntry.respects_ofJson?)]

end RecordEntry

namespace CrossEntry

def shape : Shape :=
  .record schema [.map .plain, .map (.list RecordEntry.shape)]

theorem respects_ofJson? : Respects shape ofJson? := by
  refine respects_record (by decide) rfl fun h => ?_
  obtain _ | ⟨hdescriptions, _ | ⟨hlanguages, ⟨⟩⟩⟩ := h
  simp only [ofFields?, hdescriptions.defaulted (respects_map (respects_plain _)),
    hlanguages.defaulted (respects_map (respects_list RecordEntry.respects_ofJson?))]

end CrossEntry

namespace LanguageEntry

def methodShape : Shape :=
  .record methodSchema [.plain]

theorem respects_scenarioOfMethod? : Respects methodShape scenarioOfMethod? := by
  intro v w hvw
  have hrel := rel_fields? (by decide) rfl hvw
  rw [scenarioOfMethod?, scenarioOfMethod?]
  generalize fields? methodSchema v = xs?, fields? methodSchema w = ys? at hrel
  cases hrel with
  | none => rfl
  | some h =>
    obtain _ | ⟨hname, ⟨⟩⟩ := h
    exact hname.required (respects_plain _)

def shape : Shape :=
  .record schema [.plain, .plain, .plain, .list .plain, .list .plain, .list .plain,
    .list methodShape]

theorem respects_ofJson? : Respects shape ofJson? := by
  refine respects_record (by decide) rfl fun h => ?_
  obtain _ | ⟨hlanguage, _ | ⟨hfound, _ | ⟨hpath, _ | ⟨hmissing, _ | ⟨himplemented, _ | ⟨hwarnings,
    _ | ⟨hmethods, ⟨⟩⟩⟩⟩⟩⟩⟩⟩ := h
  simp only [ofFields?, hlanguage.required (respects_plain _), hfound.defaulted (respects_plain _),
    hpath.defaulted (respects_plain _), hmissing.defaulted (respects_list (respects_plain _)),
    himplemented.defaulted (respects_list (respects_plain _)),
    hwarnings.defaulted (respects_list (respects_plain _)),
    hmethods.defaulted (respects_list respects_scenarioOfMethod?)]

end LanguageEntry

namespace FeatureEntry

def shape : Shape :=
  .record schema [.plain, .list LanguageEntry.shape]

theorem respects_ofJson? : Respects shape ofJson? := by
  refine respects_record (by decide) rfl fun h => ?_
  obtain _ | ⟨hfile, _ | ⟨hvalidations, ⟨⟩⟩⟩ := h
  simp only [ofFields?, hfile.required (respects_plain _),
    hvalidations.defaulted (respects_list LanguageEntry.respects_ofJson?)]

end FeatureEntry

namespace ReportDocument

def shape : Shape :=
  .record schema [.list FeatureEntry.shape, CrossEntry.shape, CrossEntry.shape]

theorem respects_ofJson? : Respects shape ofJson? := by
  refine respects_record (by decide) rfl fun h => ?_
  obtain _ | ⟨hresults, _ | ⟨hchanges, _ | ⟨hdifferences, ⟨⟩⟩⟩⟩ := h
  simp only [ofFields?, hresults.defaulted (respects_list FeatureEntry.respects_ofJson?),
    hchanges.defaulted (respects_optional CrossEntry.respects_ofJson?),
    hdifferences.defaulted (respects_optional CrossEntry.respects_ofJson?)]

end ReportDocument

-- ---------------------------------------------------------------------------
-- Reports
-- ---------------------------------------------------------------------------

namespace Report

/-- A document and what it is rewritten to state the same report, or none, whatever texts they are
given in. -/
theorem ofJson_of_rewrites (c : OutputContext) {text text' : String} {v w : Json}
    (hread : Json.read? text = some v)
    (hrewrites : Relation.ReflTransGen ReportDocument.shape.Rewrites v w)
    (htext : Spaced (IsText w) text'.toList) : ofJson c text' = ofJson c text := by
  have hdocument : ReportDocument.ofJson? v = ReportDocument.ofJson? w :=
    ReportDocument.respects_ofJson?.reflTransGen hrewrites
  rw [ofJson, ofJson, ReportDocument.read?, ReportDocument.read?, hread, read?_of_isText htext,
    Option.bind_some, Option.bind_some, hdocument]

/-- A report of one record, whose identifier is given under a name. -/
def breakingChange (idName : String) : Json :=
  .object [(some "by_language", .object [(some "go", .array [
    .object [(some idName, .string (some "BC#1"))]])])]

/-- A document of that report alone. -/
def breakingDocument : Json :=
  .object [(some "validation_results", .array []),
    (some "breaking_changes_report", breakingChange "id")]

/-- The same document with a note in it, its fields in another order and the identifier under
another name. -/
def notedDocument : Json :=
  .object [(some "note", .array [.null, .string none]),
    (some "breaking_changes_report", breakingChange "breaking_change_id"),
    (some "validation_results", .array [])]

theorem rewrites_notedDocument :
    Relation.ReflTransGen ReportDocument.shape.Rewrites breakingDocument notedDocument := by
  have hid : RecordEntry.shape.Rewrites (.object [(some "id", .string (some "BC#1"))])
      (.object [(some "breaking_change_id", .string (some "BC#1"))]) :=
    @Shape.Rewrites.respelled RecordEntry.schema _ _ .plain [] [] "id" "breaking_change_id" _
      List.mem_cons_self (by decide) (by decide)
  have hreport : CrossEntry.shape.Rewrites (breakingChange "id")
      (breakingChange "breaking_change_id") :=
    @Shape.Rewrites.field CrossEntry.schema _ _ _ [] [] "by_language" _ _
      (List.mem_cons_of_mem _ List.mem_cons_self) (by decide)
      (@Shape.Rewrites.entry _ [] [] _ _ _ (@Shape.Rewrites.item _ [] [] _ _ hid))
  have hfield : ReportDocument.shape.Rewrites breakingDocument
      (.object [(some "validation_results", .array []),
        (some "breaking_changes_report", breakingChange "breaking_change_id")]) :=
    @Shape.Rewrites.field ReportDocument.schema _ _ _ [(some "validation_results", .array [])] []
      "breaking_changes_report" _ _ (List.mem_cons_of_mem _ List.mem_cons_self) (by decide) hreport
  have hswap : ReportDocument.shape.Rewrites
      (.object [(some "validation_results", .array []),
        (some "breaking_changes_report", breakingChange "breaking_change_id")])
      (.object [(some "breaking_changes_report", breakingChange "breaking_change_id"),
        (some "validation_results", .array [])]) :=
    .permuted (.swap ..)
  have hnote : ReportDocument.shape.Rewrites
      (.object [(some "breaking_changes_report", breakingChange "breaking_change_id"),
        (some "validation_results", .array [])]) notedDocument :=
    @Shape.Rewrites.added ReportDocument.schema _ [] _ "note" _ (by unfold Shape.Unknown; decide)
  exact ((Relation.ReflTransGen.single hfield).tail hswap).tail hnote

def breakingReport : Report where
  verdicts := []
  crossReferences := .ofList [
    (.breakingChange, [⟨.breakingChange, "BC#1", "", .ofList [(⟨"go"⟩, [])]⟩]),
    (.behaviorDifference, [])]

theorem ofJson_of_rewrites_note :
    Json.read? (String.ofList (print breakingDocument)) = some breakingDocument ∧
      Relation.ReflTransGen ReportDocument.shape.Rewrites breakingDocument notedDocument ∧
      Spaced (IsText notedDocument) (String.ofList (print notedDocument)).toList ∧
      ofJson ⟨"/w", .default⟩ (String.ofList (print notedDocument)) = .ok breakingReport := by
  have hread : Json.read? (String.ofList (print breakingDocument)) = some breakingDocument :=
    read?_print (by simp [breakingDocument, breakingChange, Writable, WritableMembers,
      WritableItems])
  have htext : Spaced (IsText notedDocument) (String.ofList (print notedDocument)).toList := by
    rw [String.toList_ofList]
    exact .of_self (isText_print _ (by simp [notedDocument, breakingChange, Writable,
      WritableMembers, WritableItems]))
  have hreport : ofJson ⟨"/w", .default⟩ (String.ofList (print breakingDocument)) =
      .ok breakingReport := by
    rw [ofJson, ReportDocument.read?, hread]
    decide +kernel
  exact ⟨hread, rewrites_notedDocument, htext,
    (ofJson_of_rewrites _ hread rewrites_notedDocument htext).trans hreport⟩

/-- A document with a member whose name is a surrogate without its partner. -/
def surrogateDocument : Json :=
  .object [(none, .null)]

/-- A name without a text spells no field, but a document with such a member is none. -/
theorem not_ofJson_surrogateDocument :
    ofJson ⟨"/w", .default⟩ (String.ofList (print (.object []))) =
        .ok ⟨[], .ofList [(.breakingChange, []), (.behaviorDifference, [])]⟩ ∧
      Json.read? (String.ofList (print surrogateDocument)) = some surrogateDocument ∧
      ofJson ⟨"/w", .default⟩ (String.ofList (print surrogateDocument)) = .error .document := by
  have hread : Json.read? (String.ofList (print surrogateDocument)) = some surrogateDocument :=
    read?_print (by simp [surrogateDocument, Writable, WritableMembers])
  have hempty : Json.read? (String.ofList (print (.object []))) = some (.object []) :=
    read?_print (by simp [Writable, WritableMembers])
  refine ⟨?_, hread, ?_⟩
  · rw [ofJson, ReportDocument.read?, hempty]
    decide +kernel
  · rw [ofJson, ReportDocument.read?, hread]
    rfl

end Report

end SpecCoverage
