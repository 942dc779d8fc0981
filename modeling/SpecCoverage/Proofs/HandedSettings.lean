-- SUMMARY: What accepted settings hand on: a title and a link base as demanded, tool names as demanded but for blanks around them.
import SpecCoverage.Proofs.Cutting
import SpecCoverage.Proofs.SettingsCheck

/-!
# Settings that are handed on

The checks look at names, title and link base without the blanks around them. The page is given
title and base in this form, so whatever was checked of them holds where they are used. The tool and
the name of the validator are handed on as they are written: they are one word each, but there may
be blanks around it.
-/
namespace SpecCoverage

open Text

-- ---------------------------------------------------------------------------
-- What is demanded
-- ---------------------------------------------------------------------------

/-- Is the text not empty, not too long, and without blanks at its ends? -/
structure IsTitle (title : String) : Prop where
  ne_empty : title ≠ ""
  length_le : title.length ≤ 256
  front : ∀ c ∈ title.toList.head?, isBlank c = false
  back : ∀ c ∈ title.toList.getLast?, isBlank c = false

/-- Is the text the address of a web page that can stand in an attribute? -/
structure IsLinkBase (base : String) : Prop where
  scheme : "http://".toList <+: base.toList ∨ "https://".toList <+: base.toList
  size_le : base.utf8ByteSize ≤ 4096
  chars : ∀ c ∈ base.toList, isBlank c = false ∧ c ∉ ['"', '<', '>']

/-- What is demanded of the title and the link base of a page. -/
structure Page.Options.Demanded (o : Page.Options) : Prop where
  title : IsTitle o.title
  linkBase : ∀ base ∈ o.linkBase?, IsLinkBase base

/-- What is demanded of the tool that builds the validator and the name under which it runs. -/
structure BridgeSettings.Demanded (b : BridgeSettings) : Prop where
  buildTool : IsWord b.buildTool.toList
  binName : IsWord b.binName.toList
  binName_flat : '/' ∉ b.binName.toList ∧ '\\' ∉ b.binName.toList

/-- Is the text one word with blanks around it? -/
def IsPaddedWord (name : String) : Prop :=
  ∃ before word after, AllBlank before ∧ IsWord word ∧ AllBlank after ∧
    name.toList = before ++ word ++ after

-- ---------------------------------------------------------------------------
-- What is handed on
-- ---------------------------------------------------------------------------

namespace Settings

variable {s : Settings}

theorem IsName.isPaddedWord {name : String} (h : IsName name) : IsPaddedWord name := by
  obtain ⟨before, after, hbefore, hafter, hname⟩ := exists_trim name.toList
  exact ⟨before, _, after, hbefore, h.1, hafter, hname⟩

theorem isTitle_of_check (h : s.check = .ok ()) : IsTitle s.pageOptions.title where
  ne_empty := by
    rw [pageOptions, ne_eq, String.ofList_eq_empty_iff]
    exact (title_of_check h).1
  length_le := by
    rw [pageOptions, String.length_ofList]
    exact (title_of_check h).2
  front := by
    rw [pageOptions, String.toList_ofList]
    exact fun _ => not_isBlank_of_mem_head?_trim
  back := by
    rw [pageOptions, String.toList_ofList]
    exact fun _ => not_isBlank_of_mem_getLast?_trim

theorem isLinkBase_of_check {base : String} (h : s.check = .ok ())
    (hbase : s.pageOptions.linkBase? = some base) : IsLinkBase base := by
  obtain ⟨hscheme, hchars, hsize⟩ := linkBase_of_check h hbase
  refine ⟨?_, hsize, fun c hc => ?_⟩
  · rw [hasLinkScheme, Bool.or_eq_true, startsWith_iff, startsWith_iff] at hscheme
    exact hscheme.symm
  · have hchar := List.all_eq_true.1 hchars c hc
    simpa [isLinkChar, and_assoc] using hchar

theorem demanded_pageOptions (h : s.check = .ok ()) : s.pageOptions.Demanded where
  title := isTitle_of_check h
  linkBase := fun _ hbase => isLinkBase_of_check h hbase

theorem binName_flat_of_check (h : s.check = .ok ()) :
    '/' ∉ s.validator.binName.toList ∧ '\\' ∉ s.validator.binName.toList := by
  have hflat := List.any_eq_false.1 (isName_validator_of_check h).2.2
  exact ⟨fun hc => hflat _ hc (by decide), fun hc => hflat _ hc (by decide)⟩

/-- The settings of the page are as demanded. So are those of the validator, but for blanks around
the two names. -/
theorem demanded_of_read {text : String} (h : read text = .ok s) (workspace : Path) :
    s.pageOptions.Demanded ∧
      IsPaddedWord (s.bridge workspace).buildTool ∧ IsPaddedWord (s.bridge workspace).binName ∧
      ('/' ∉ (s.bridge workspace).binName.toList ∧ '\\' ∉ (s.bridge workspace).binName.toList) ∧
      ((s.bridge workspace).Demanded ↔
        trim s.validator.buildTool.toList = s.validator.buildTool.toList ∧
          trim s.validator.binName.toList = s.validator.binName.toList) := by
  have hcheck := check_of_read h
  obtain ⟨htool, hname, -⟩ := isName_validator_of_check hcheck
  have hflat := binName_flat_of_check hcheck
  refine ⟨demanded_pageOptions hcheck, htool.isPaddedWord, hname.isPaddedWord, hflat, ?_⟩
  rw [← isWord_iff_of_trim htool.1, ← isWord_iff_of_trim hname.1]
  exact ⟨fun hd => ⟨hd.buildTool, hd.binName⟩, fun hd => ⟨hd.1, hd.2, hflat⟩⟩

/-- Settings with blanks around whatever is trimmed where it is used. -/
def makeLines : List String :=
  ["[validator]", "build_tool = \"make\"", "[report]", "title = \" Login coverage\\t\"",
    "source_link_base = \"\\n https://example.com/blob/main \""]

def makeText : String :=
  String.ofList (joinLines (makeLines.map String.toList))

def makeSettings : Settings :=
  { Settings.default with
    validator := { ValidatorSettings.default with buildTool := "make" }
    report := { ReportSettings.default with
      title := " Login coverage\t"
      linkBase := "\n https://example.com/blob/main " } }

theorem demanded_of_read_make :
    read makeText = .ok makeSettings ∧ makeSettings.pageOptions.Demanded ∧
      (makeSettings.bridge ⟨"/w"⟩).Demanded ∧
      makeSettings.pageOptions = ⟨"Login coverage", some "https://example.com/blob/main"⟩ := by
  have hread : read makeText = .ok makeSettings := by
    rw [read, Toml.read?, makeText, String.toList_ofList]
    decide +kernel
  obtain ⟨hpage, -, -, -, hbridge⟩ := demanded_of_read hread ⟨"/w"⟩
  exact ⟨hread, hpage, hbridge.2 (by decide +kernel), by decide +kernel⟩

/-- Settings with a blank in front of the tool. -/
def cargoLines : List String :=
  ["[validator]", "build_tool = \" cargo\""]

def cargoText : String :=
  String.ofList (joinLines (cargoLines.map String.toList))

def cargoSettings : Settings :=
  { Settings.default with validator := { ValidatorSettings.default with buildTool := " cargo" } }

/-- A tool with a blank in front of it is accepted and handed on as it is written. -/
theorem not_demanded_cargo :
    read cargoText = .ok cargoSettings ∧ (cargoSettings.bridge ⟨"/w"⟩).buildTool = " cargo" ∧
      ¬ (cargoSettings.bridge ⟨"/w"⟩).Demanded := by
  have hread : read cargoText = .ok cargoSettings := by
    rw [read, Toml.read?, cargoText, String.toList_ofList]
    decide +kernel
  have hblank : ' ' ∈ (cargoSettings.bridge ⟨"/w"⟩).buildTool.toList := by
    change ' ' ∈ " cargo".toList
    decide
  refine ⟨hread, rfl, fun h => ?_⟩
  exact absurd (h.buildTool.2 ' ' hblank) (by decide)

end Settings

end SpecCoverage
