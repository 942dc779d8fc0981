-- SUMMARY: From a workspace to a rendered report.
import SpecCoverage.Catalog
import SpecCoverage.Page.Html
import SpecCoverage.Table
import SpecCoverage.Validator.Bridge

/-!
# The pipeline

The features of a workspace are loaded, the validator gives its report and the cross references, and
the matrix of both is rendered.
-/
namespace SpecCoverage

/-- Render a matrix. A table that is too wide stops the program. -/
def Presentation.render? (o : Page.Options) (m : Matrix) : Presentation → Option String
  | .table => Table.render? m
  | .html => some (Page.render o m)

/-- What is asked for. -/
structure ReportRequest where
  workspace : Path
  settings : Settings
  presentation : Presentation
  dialect : Dialect

/-- A rendered matrix. -/
structure RenderedReport where
  /-- There is none if rendering stopped the program. -/
  text? : Option String
  matrix : Matrix

namespace ReportRequest

/-- The catalog of the workspace and the features in it. -/
def load (r : ReportRequest) (d : Disk) : List Feature × Catalog :=
  (Catalog.start r.workspace r.settings.policy).load d r.settings.catalog.featuresDir

/-- Render the loaded features under a report and cross references. -/
def render (r : ReportRequest) (d : Disk) (loaded : List Feature × Catalog) (report : Report)
    (crossReferences : CrossReferences) : RenderedReport :=
  let m := (loaded.2.matrix d loaded.1 report.verdicts crossReferences).1
  ⟨r.presentation.render? r.settings.pageOptions m, m⟩

/-- The bridge to the validator of the workspace. -/
def bridge (r : ReportRequest) (d : Disk) : Bridge :=
  .start d { r.settings.bridge r.workspace with dialect := r.dialect }

variable {σ : Type} (h : Host σ)

/-- The full report and the cross references, in this order. -/
def findings (b : Bridge) (w : σ) : Except ValidatorError (Report × CrossReferences) × σ :=
  match b.fullReport h w with
  | (.error e, _, w) => (.error e, w)
  | (.ok report, b, w) =>
    match b.crossReferences h w with
    | (.error e, _, w) => (.error e, w)
    | (.ok crossReferences, _, w) => (.ok (report, crossReferences), w)

/-- Carry out a request with the validator of the workspace. -/
def run (r : ReportRequest) (w : σ) : Except ValidatorError RenderedReport × σ :=
  let loaded := r.load (h.disk w)
  match findings h (r.bridge (h.disk w)) w with
  | (.error e, w) => (.error e, w)
  | (.ok (report, crossReferences), w) =>
    (.ok (r.render (h.disk w) loaded report crossReferences), w)

end ReportRequest

end SpecCoverage
