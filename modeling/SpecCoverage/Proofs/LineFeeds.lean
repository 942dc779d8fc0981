-- SUMMARY: Case mapping and folder titles bring no line feed into a text.
import SpecCoverage.Folder
import SpecCoverage.Proofs.ReducedSpellings

/-!
# Texts without line feeds

Upper and lower case of a character other than a line feed have none, as the case tables name no
character that low. So the title and the banner of a folder stand on one line when its name does.
-/
namespace SpecCoverage

open Text

namespace Text

theorem ofNat_ne_newline {n : Nat} (hn : 10 < n) : Char.ofNat n ≠ '\n' := by
  by_cases hvalid : n.isValidChar
  · have hofNat : Char.ofNat n = Char.ofNatAux n hvalid := dif_pos hvalid
    rw [hofNat]
    intro h
    have hten : n = 10 := congrArg Char.toNat h
    omega
  · have hofNat : Char.ofNat n = '\x00' := dif_neg hvalid
    rw [hofNat]
    decide

theorem ten_lt_of_image? {r : CaseRun} (hr : 10 < (r.first : Int) + r.shift) {n k : Nat}
    (h : r.image? n = some k) : 10 < k := by
  unfold CaseRun.image? at h
  split at h
  · rename_i hin
    cases h
    simp only [Bool.and_eq_true, decide_eq_true_eq] at hin
    omega
  · cases h

/-- Case mapping puts no line feed in the place of another character, where its tables name none. -/
theorem newline_notMem_mapCase {expansions : List (Nat × List Nat)} {runs : List CaseRun} {c : Char}
    (hexpansions : ∀ e ∈ expansions, ∀ n ∈ e.2, 10 < n)
    (hruns : ∀ r ∈ runs, 10 < (r.first : Int) + r.shift) (hc : c ≠ '\n') :
    '\n' ∉ mapCase expansions runs c := by
  unfold mapCase
  split
  · rename_i ns hns
    obtain ⟨front, back, heq, -⟩ := List.lookup_eq_some_iff.1 hns
    have he : (c.toNat, ns) ∈ expansions := by simp [heq]
    intro hmem
    obtain ⟨n, hn, hnewline⟩ := List.mem_map.1 hmem
    exact ofNat_ne_newline (hexpansions _ he n hn) hnewline
  · rw [List.mem_singleton]
    cases himage : runs.findSome? (·.image? c.toNat) with
    | none => exact hc.symm
    | some n =>
      obtain ⟨r, hr, himage⟩ := List.exists_of_findSome?_eq_some himage
      exact (ofNat_ne_newline (ten_lt_of_image? (hruns r hr) himage)).symm

theorem upperChar_ne_newline {c : Char} (hc : c ≠ '\n') : upperChar c ≠ '\n' := by
  by_cases h : c.toNat < 128
  · exact forall_ascii (p := fun c => c ≠ '\n' → upperChar c ≠ '\n') (by decide +kernel) h hc
  · rwa [upperChar_of_le (Nat.le_of_not_lt h)]

theorem newline_notMem_upperOf {c : Char} (hc : c ≠ '\n') : '\n' ∉ upperOf c := by
  unfold upperOf
  split
  · rw [List.mem_singleton]
    exact (upperChar_ne_newline hc).symm
  · exact newline_notMem_mapCase (by decide +kernel) (by decide +kernel) hc

theorem newline_notMem_lowerOf {c : Char} (hc : c ≠ '\n') : '\n' ∉ lowerOf c := by
  unfold lowerOf
  split
  · rename_i hlow
    rw [List.mem_singleton]
    exact forall_ascii (p := fun c => c ≠ '\n' → '\n' ≠ lowerChar c) (by decide +kernel) hlow hc
  · exact newline_notMem_mapCase (by decide +kernel) (by decide +kernel) hc

theorem newline_notMem_capitalize {s : List Char} (h : '\n' ∉ s) : '\n' ∉ capitalize s := by
  cases s with
  | nil => exact h
  | cons c s =>
    rw [List.mem_cons, not_or] at h
    rw [capitalize, List.mem_append, not_or, List.mem_flatMap]
    refine ⟨newline_notMem_upperOf (Ne.symm h.1), ?_⟩
    rintro ⟨d, hd, hmem⟩
    exact newline_notMem_lowerOf (fun hnewline => h.2 (hnewline ▸ hd)) hmem

theorem newline_notMem_upper {s : List Char} (h : '\n' ∉ s) : '\n' ∉ upper s := by
  rw [upper, List.mem_flatMap]
  rintro ⟨c, hc, hmem⟩
  exact newline_notMem_upperOf (fun hnewline => h (hnewline ▸ hc)) hmem

theorem newline_notMem_capitalizeAscii {s : List Char} (h : '\n' ∉ s) :
    '\n' ∉ capitalizeAscii s := by
  cases s with
  | nil => exact h
  | cons c s =>
    rw [List.mem_cons, not_or] at h
    rw [capitalizeAscii, List.mem_cons, not_or]
    exact ⟨(upperChar_ne_newline (Ne.symm h.1)).symm, h.2⟩

theorem mem_intercalate {sep : List Char} {ls : List (List Char)} {c : Char}
    (h : c ∈ sep.intercalate ls) : c ∈ sep ∨ ∃ l ∈ ls, c ∈ l := by
  induction ls with
  | nil => simp at h
  | cons l ls ih =>
    cases ls with
    | nil => exact .inr ⟨l, List.mem_singleton_self l, by simpa using h⟩
    | cons m ms =>
      rw [List.intercalate_cons_cons, List.mem_append, List.mem_append] at h
      obtain (hl | hsep) | hrest := h
      · exact .inr ⟨l, List.mem_cons_self, hl⟩
      · exact .inl hsep
      · obtain hsep | ⟨k, hk, hmem⟩ := ih hrest
        · exact .inl hsep
        · exact .inr ⟨k, List.mem_cons_of_mem l hk, hmem⟩

end Text

/-! ## Titles of folders -/

namespace Folder

theorem newline_notMem_title {folder : String} (h : '\n' ∉ folder.toList) :
    '\n' ∉ (title folder).toList := by
  rw [title, String.toList_intercalate, List.map_map]
  intro hmem
  obtain hspace | ⟨_, hword, hmem⟩ := Text.mem_intercalate hmem
  · exact absurd hspace (by decide)
  · obtain ⟨w, hw, rfl⟩ := List.mem_map.1 hword
    rw [Function.comp_apply, String.toList_ofList] at hmem
    refine newline_notMem_capitalize (fun hmem => h ?_) hmem
    have hpiece := List.mem_flatten_of_mem (List.mem_of_mem_filter hw) hmem
    rw [flatten_splitAtChars] at hpiece
    exact List.mem_of_mem_filter hpiece

theorem newline_notMem_banner {folder : String} (h : '\n' ∉ folder.toList) :
    '\n' ∉ (banner folder).toList := by
  rw [banner, String.toList_ofList]
  exact newline_notMem_upper (newline_notMem_title h)

end Folder

end SpecCoverage
