-- SUMMARY: A scan lists, in strict order, just what the searches find, and each declaration is borne out by the lines around it.
import SpecCoverage.Proofs.ScannedLines

/-!
# Scanned declarations

`Declaration.Justified` says what the text owes to a declaration that is listed: a line of its own
with the name on it, and the test attribute or annotation that makes it one. `Declaration.Listed`
adds the order of the list and that it lists what the searches find and nothing else.
-/
namespace SpecCoverage.Declaration

open Text

/-! ## What is said of a list -/

/-- A declaration is borne out by a text. -/
structure Justified (text : String) (d : Declaration) : Prop where
  line : 1 ≤ d.line ∧ d.line ≤ (lines text.toList).length
  occurs : d.declared.name.toList <:+: lineAt text d.line
  identifier : d.declared.style ≠ .testCase → Pattern.IsIdentifier d.declared.name.toList
  annotated : d.declared.style = .annotated →
    (∃ m, 1 ≤ m ∧ m + 1 ≤ d.line ∧ d.line ≤ m + 3 ∧ Pattern.OpensWithAnnotation (lineAt text m)) ∧
      lineAt text d.line ≠ [] ∧ ¬ ['@'] <+: lineAt text d.line ∧ ¬ ['['] <+: lineAt text d.line
  attributed : d.declared.style = .attribute →
    ∃ m, 1 ≤ m ∧ m ≤ d.line ∧ d.line ≤ m + 5 ∧
      ∃ mark ∈ Pattern.attributeMarks, mark <:+: lineAt text m
  convention : d.declared.style = .convention → "test_".toList <+: d.declared.name.toList

/-- A list has the declarations of a text in strict order, and each is borne out by the text. -/
structure Listed (text : String) (ds : List Declaration) : Prop where
  increasing : ds.Pairwise Before
  exact : ∀ d, d ∈ ds ↔ NamedAt text d.line d.declared.name.toList d.declared.style
  justified : ∀ d ∈ ds, Justified text d

/-! ## What the lines declare -/

variable {text : String} {n : Nat} {name : List Char} {style : DeclarationStyle}

theorem AnnotatedAt.exists_line (h : AnnotatedAt text n) :
    ∃ m, 1 ≤ m ∧ m + 1 ≤ n ∧ n ≤ m + 3 ∧ Pattern.OpensWithAnnotation (lineAt text m) := by
  obtain ⟨m, hopens, hfirst⟩ := h
  have hrange := List.mem_range'_1.1 (List.mem_of_find?_eq_some hfirst)
  rw [annotationReach] at hrange
  exact ⟨m, (le_of_lineAt_ne_nil hopens.ne_nil).1, by omega, by omega, hopens⟩

theorem AttributedAt.exists_line (h : AttributedAt text n) :
    ∃ m, 1 ≤ m ∧ m ≤ n ∧ n ≤ m + 5 ∧ ∃ mark ∈ Pattern.attributeMarks, mark <:+: lineAt text m := by
  obtain ⟨k, hk, mark, hmark, hpiece⟩ := h
  have hmarks : ∀ mark ∈ Pattern.attributeMarks, mark ≠ [] := by decide
  have hline : lineAt text (n - k) ≠ [] := by
    intro hnil
    rw [hnil, List.infix_nil] at hpiece
    exact hmarks mark hmark hpiece
  have hpos := (le_of_lineAt_ne_nil hline).1
  rw [attributeReach] at hk
  exact ⟨n - k, hpos, by omega, by omega, mark, hmark, hpiece⟩

/-- A name is found in the line, and is an identifier unless it is quoted. -/
theorem NamedAt.found (h : NamedAt text n name style) :
    name <:+: lineAt text n ∧ (style ≠ .testCase → Pattern.IsIdentifier name) := by
  match style with
  | .testCase =>
    obtain ⟨hpiece, -⟩ := Pattern.of_find? (P := fun _ => True)
      (fun _ _ _ h => ⟨Pattern.infix_of_testCase h, trivial⟩) h
    exact ⟨hpiece, fun hstyle => absurd rfl hstyle⟩
  | .annotated =>
    obtain ⟨-, -, -, hname⟩ := method?_eq_some_iff.1 h.2
    exact (Pattern.of_signature? hname).imp_right fun hid _ => hid
  | .attribute =>
    exact (Pattern.of_find? (fun _ _ _ => Pattern.of_function) h.2).imp_right fun hid _ => hid
  | .convention =>
    obtain ⟨hpiece, hid, -⟩ := Pattern.of_find? (fun _ _ _ => Pattern.of_testFunction) h
    exact ⟨hpiece, fun _ => hid⟩
  | .voidFunction =>
    exact (Pattern.of_find? (fun _ _ _ => Pattern.of_voidFunction) h).imp_right fun hid _ => hid

theorem NamedAt.justified {d : Declaration}
    (h : NamedAt text d.line d.declared.name.toList d.declared.style) : Justified text d where
  line := by
    have hline := le_of_lineAt_ne_nil h.lineAt_ne_nil
    rwa [trimmedLines, List.length_map] at hline
  occurs := h.found.1
  identifier := h.found.2
  annotated := by
    intro hstyle
    rw [hstyle] at h
    obtain ⟨hannotated, hmethod⟩ := h
    obtain ⟨hne, hat, hbracket, -⟩ := method?_eq_some_iff.1 hmethod
    exact ⟨hannotated.exists_line, hne, hat, hbracket⟩
  attributed := by
    intro hstyle
    rw [hstyle] at h
    exact AttributedAt.exists_line h.1
  convention := by
    intro hstyle
    rw [hstyle] at h
    exact (Pattern.of_find? (fun _ _ _ => Pattern.of_testFunction) h).2.2

/-! ## Scans -/

/-- Whatever the text is, a scan lists what its lines declare: strictly by line, name and style, all
that the searches find, and nothing that the text does not bear out. -/
theorem scan_listed (text : String) : Listed text (scan text) where
  increasing := scan_increasing text
  exact := fun _ => mem_scan_iff
  justified := fun _ hd => (mem_scan_iff.1 hd).justified

/-- A method below an annotation may be a function without a result as well. -/
example : scan "@Test\n\nvoid shouldRun() \x7b" =
    [⟨3, ⟨"shouldRun", .annotated⟩⟩, ⟨3, ⟨"shouldRun", .voidFunction⟩⟩] := by
  decide +kernel

end SpecCoverage.Declaration
