-- SUMMARY: What the checks of settings let through: names of one word, languages pinned once, titles and link bases.
import Mathlib.Data.List.Nodup
import SpecCoverage.Proofs.Trimming
import SpecCoverage.Settings.Document

/-!
# What settings are accepted

A check is a chain of refusals, so it passes just when none of them applies. Here each check of a
field says what it lets through, and settings that are read have passed the checks of all sections.
-/
namespace SpecCoverage

open Text

namespace Text

/-- Something is written, and no blank in it. -/
def IsWord (s : List Char) : Prop :=
  s ≠ [] ∧ ∀ c ∈ s, isBlank c = false

/-- A text whose trimmed form is one word is a word itself unless there are blanks around it. -/
theorem isWord_iff_of_trim {s : List Char} (h : IsWord (trim s)) : IsWord s ↔ trim s = s := by
  constructor
  · exact fun hs => trim_of_forall_not_isBlank hs.2
  · exact fun hs => hs ▸ h

end Text

namespace Settings

/-! ## Refusals -/

theorem bind_eq_ok_iff {first : Checked} {second : Unit → Checked} :
    (first >>= second) = .ok () ↔ first = .ok () ∧ second () = .ok () := by
  cases first with
  | error e => simp [bind, Except.bind]
  | ok u => simp [bind, Except.bind]

theorem refuseIf_eq_ok_iff {bad : Bool} {e : SettingsError} :
    refuseIf bad e = .ok () ↔ bad = false := by
  cases bad <;> simp [refuseIf]

/-! ## Fields -/

/-- A name is one word, blanks around it apart, and not too long. -/
def IsName (name : String) : Prop :=
  IsWord (trim name.toList) ∧ (String.ofList (trim name.toList)).utf8ByteSize ≤ partLimit

theorem checkName_eq_ok_iff {field name : String} :
    checkName field name = .ok () ↔ IsName name := by
  simp only [checkName, bind_eq_ok_iff, refuseIf_eq_ok_iff, IsName, IsWord,
    decide_eq_false_iff_not, Nat.not_lt, List.isEmpty_eq_false_iff, List.any_eq_false,
    Bool.not_eq_true, and_assoc]

theorem checkLinkBase_eq_ok_iff {base : List Char} :
    checkLinkBase base = .ok () ↔ base = [] ∨ hasLinkScheme base = true ∧
      base.all isLinkChar = true ∧ (String.ofList base).utf8ByteSize ≤ pathLimit := by
  cases base with
  | nil => simp [checkLinkBase]
  | cons c base =>
    simp only [checkLinkBase, bind_eq_ok_iff, refuseIf_eq_ok_iff, decide_eq_false_iff_not,
      Nat.not_lt, List.isEmpty_cons, Bool.false_eq_true, if_false, Bool.not_eq_false',
      List.cons_ne_nil, false_or]

/-! ## Languages -/

/-- Pinned names pass when each is one word and they stand for different languages, none of them
seen before. -/
theorem checkPinned_eq_ok_iff {seen : List Language} {names : List String} :
    checkPinned seen names = .ok () ↔ (∀ name ∈ names, IsName name) ∧
      (names.map Language.ofName).Nodup ∧ ∀ name ∈ names, Language.ofName name ∉ seen := by
  induction names generalizing seen with
  | nil => simp [checkPinned]
  | cons name names ih =>
    rw [checkPinned, bind_eq_ok_iff, bind_eq_ok_iff, checkName_eq_ok_iff, refuseIf_eq_ok_iff, ih,
      List.map_cons, List.nodup_cons, List.forall_mem_cons, List.forall_mem_cons]
    simp only [decide_eq_false_iff_not, List.mem_cons, not_or, List.mem_map, not_exists, not_and]
    constructor
    · rintro ⟨hname, hseen, hnames, hnodup, hothers⟩
      exact ⟨⟨hname, hnames⟩, ⟨fun n hn => (hothers n hn).1, hnodup⟩, hseen,
        fun n hn => (hothers n hn).2⟩
    · rintro ⟨⟨hname, hnames⟩, ⟨hothers, hnodup⟩, hseen, hnotSeen⟩
      exact ⟨hname, hseen, hnames, hnodup, fun n hn => ⟨hothers n hn, hnotSeen n hn⟩⟩

/-! ## Sections -/

section

variable {s : Settings}

theorem check_eq_ok_iff : s.check = .ok () ↔ checkCatalog s.catalog = .ok () ∧
    checkValidator s.validator = .ok () ∧ checkLanguages s.languages = .ok () ∧
      checkReport s.report = .ok () := by
  rw [check, bind_eq_ok_iff, bind_eq_ok_iff, bind_eq_ok_iff]

/-- Settings that are read have been checked. -/
theorem check_of_read {text : String} (h : read text = .ok s) : s.check = .ok () := by
  unfold read at h
  split at h
  · cases h
  · rename_i given _
    cases hcheck : given.check with
    | error e =>
      rw [hcheck] at h
      cases h
    | ok u =>
      rw [hcheck] at h
      obtain rfl := Except.ok.inj h
      exact hcheck

/-- The settings of a workspace that has none are accepted. -/
theorem check_default : check .default = .ok () := by
  decide +kernel

theorem isName_validator_of_check (h : s.check = .ok ()) :
    IsName s.validator.buildTool ∧ IsName s.validator.binName ∧
      s.validator.binName.toList.any isPathSeparator = false := by
  obtain ⟨-, hvalidator, -, -⟩ := check_eq_ok_iff.1 h
  simp only [checkValidator, bind_eq_ok_iff, checkName_eq_ok_iff, refuseIf_eq_ok_iff] at hvalidator
  exact hvalidator.2.2

theorem pinned_nodup_of_check (h : s.check = .ok ()) :
    (s.languages.pinned.map Language.ofName).Nodup := by
  obtain ⟨-, -, hlanguages, -⟩ := check_eq_ok_iff.1 h
  simp only [checkLanguages, bind_eq_ok_iff, checkPinned_eq_ok_iff] at hlanguages
  exact hlanguages.2.1.2.1

theorem title_of_check (h : s.check = .ok ()) :
    trim s.report.title.toList ≠ [] ∧ (trim s.report.title.toList).length ≤ titleLimit := by
  obtain ⟨-, -, -, hreport⟩ := check_eq_ok_iff.1 h
  simp only [checkReport, bind_eq_ok_iff, refuseIf_eq_ok_iff, List.isEmpty_eq_false_iff,
    decide_eq_false_iff_not, Nat.not_lt] at hreport
  exact ⟨hreport.1, hreport.2.1⟩

/-- The base that links to source files stand below, where there is one. -/
theorem linkBase_of_check {base : String} (h : s.check = .ok ())
    (hbase : s.pageOptions.linkBase? = some base) :
    hasLinkScheme base.toList = true ∧ base.toList.all isLinkChar = true ∧
      base.utf8ByteSize ≤ pathLimit := by
  obtain ⟨-, -, -, hreport⟩ := check_eq_ok_iff.1 h
  simp only [checkReport, bind_eq_ok_iff, checkLinkBase_eq_ok_iff] at hreport
  simp only [pageOptions, Option.ite_none_left_eq_some, List.isEmpty_iff] at hbase
  obtain ⟨hgiven, hbase⟩ := hbase
  obtain rfl := Option.some.inj hbase
  rw [String.toList_ofList]
  exact hreport.2.2.2.2.resolve_left hgiven

end

end Settings

end SpecCoverage
