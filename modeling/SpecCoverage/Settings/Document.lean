-- SUMMARY: Reading settings from a TOML document.
import SpecCoverage.Settings.Check
import SpecCoverage.Toml.Decode
import SpecCoverage.Toml.Reader

/-!
# The settings document

Every section and every field may be left out and keeps its default; other keys are refused. The
settings of a document are checked.
-/
namespace SpecCoverage

open Toml

def CatalogSettings.ofToml? (v : Toml) : Option CatalogSettings :=
  match fields? ["features_dir"] v with
  | some [dir] => do
    return ⟨← defaulted? default.featuresDir (fun v => (asText? v).map Path.mk) dir⟩
  | _ => none

def ValidatorSettings.ofToml? (v : Toml) : Option ValidatorSettings :=
  match fields? ["dir", "binary", "build_tool", "bin_name", "rebuild", "mode"] v with
  | some [dir, binary, buildTool, binName, rebuild, mode] => do
    return {
      dir := ← defaulted? default.dir (fun v => (asText? v).map Path.mk) dir
      binary := ← defaulted? default.binary (fun v => (asText? v).map Path.mk) binary
      buildTool := ← defaulted? default.buildTool asText? buildTool
      binName := ← defaulted? default.binName asText? binName
      rebuild := ← defaulted? default.rebuild asFlag? rebuild
      dialect := ← defaulted? default.dialect (fun v => (asChoice? v).bind Dialect.ofName?) mode }
  | _ => none

def LanguageSettings.ofToml? (v : Toml) : Option LanguageSettings :=
  match fields? ["pinned", "aliases"] v with
  | some [pinned, aliases] => do
    return {
      pinned := ← defaulted? default.pinned (asList? asText?) pinned
      aliases := ← defaulted? default.aliases (asMap? asText?) aliases }
  | _ => none

def ReportSettings.ofToml? (v : Toml) : Option ReportSettings :=
  match fields? ["title", "format", "html_output", "source_link_base"] v with
  | some [title, format, htmlOutput, linkBase] => do
    return {
      title := ← defaulted? default.title asText? title
      presentation :=
        ← defaulted? default.presentation (fun v => (asChoice? v).bind Presentation.ofName?) format
      htmlOutput := ← defaulted? default.htmlOutput (fun v => (asText? v).map Path.mk) htmlOutput
      linkBase := ← defaulted? default.linkBase asText? linkBase }
  | _ => none

namespace Settings

def ofToml? (v : Toml) : Option Settings :=
  match fields? ["catalog", "validator", "languages", "report"] v with
  | some [catalog, validator, languages, report] => do
    return {
      catalog := ← defaulted? .default CatalogSettings.ofToml? catalog
      validator := ← defaulted? .default ValidatorSettings.ofToml? validator
      languages := ← defaulted? .default LanguageSettings.ofToml? languages
      report := ← defaulted? .default ReportSettings.ofToml? report
      source? := none }
  | _ => none

/-- The settings in a text, checked. -/
def read (text : String) : Except SettingsError Settings :=
  match (Toml.read? text).bind ofToml? with
  | none => .error .document
  | some s => s.check.map fun _ => s

end Settings

end SpecCoverage
