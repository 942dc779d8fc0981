-- SUMMARY: The parts of joined paths, and the spellings that leave the parts of a path as they are.
import SpecCoverage.Disk.Resolve
import SpecCoverage.Proofs.Cutting
import SpecCoverage.Proofs.Trimming

/-!
# Parts of paths

What a path names beyond where it starts is its `inner` list of parts. Joining two paths joins these
lists, and slashes and dots that are put in change nothing, so all that is compared by parts comes
down to where a path starts and to its `inner` list.
-/
namespace SpecCoverage

open Text

namespace Text

/-- A text cut at a separator is cut on both sides of it. -/
theorem splitAtChars_append_sep {p : Char → Bool} {c : Char} (a s : List Char) (hc : p c = true) :
    splitAtChars p (a ++ c :: s) = splitAtChars p a ++ splitAtChars p s := by
  induction a with
  | nil => simp [splitAtChars_cons, hc]
  | cons x a ih =>
    rw [List.cons_append, splitAtChars_cons, splitAtChars_cons, ih]
    split
    · rfl
    · obtain ⟨w, ws, hw⟩ := List.exists_cons_of_ne_nil (splitAtChars_ne_nil p a)
      rw [hw]
      rfl

theorem not_mem_of_mem_splitAtChars {p : Char → Bool} {c : Char} {s w : List Char}
    (hc : p c = true) (hw : w ∈ splitAtChars p s) : c ∉ w := by
  induction s generalizing w with
  | nil => simp_all
  | cons x s ih =>
    rw [splitAtChars_cons] at hw
    split at hw
    · rcases List.mem_cons.1 hw with rfl | hw
      · simp
      · exact ih hw
    · rename_i hx
      obtain ⟨v, vs, hv⟩ := List.exists_cons_of_ne_nil (splitAtChars_ne_nil p s)
      rw [hv] at hw ih
      rcases List.mem_cons.1 hw with rfl | hw
      · rw [List.mem_cons, not_or]
        refine ⟨?_, ih List.mem_cons_self⟩
        rintro rfl
        exact hx hc
      · exact ih (List.mem_cons_of_mem v hw)

end Text

namespace Path

/-! ## Pieces -/

/-- What a path names, where it starts and dots left out. -/
def inner (p : Path) : List Part :=
  p.pieces.filterMap partOfPiece?

theorem pieces_ne_nil (p : Path) : p.pieces ≠ [] := by
  simpa [pieces] using splitAtChars_ne_nil _ _

/-- At a slash the pieces fall in two. -/
theorem pieces_slash (a b : String) :
    pieces ⟨a ++ "/" ++ b⟩ = pieces ⟨a⟩ ++ pieces ⟨b⟩ := by
  have hlist : (a ++ "/" ++ b).toList = a.toList ++ '/' :: b.toList := by simp
  rw [pieces, hlist, splitAtChars_append_sep _ _ (by decide), List.map_append]
  rfl

@[simp] theorem pieces_empty : pieces ⟨""⟩ = [""] := by decide

theorem inner_slash (a b : String) : inner ⟨a ++ "/" ++ b⟩ = inner ⟨a⟩ ++ inner ⟨b⟩ := by
  rw [inner, pieces_slash, List.filterMap_append, inner, inner]

@[simp] theorem inner_empty : inner ⟨""⟩ = [] := by decide

theorem isAbsolute_iff {p : Path} : p.isAbsolute = true ↔ ['/'] <+: p.text.toList :=
  startsWith_iff

theorem isAbsolute_append {a : String} (b : String) (ha : a ≠ "") :
    isAbsolute ⟨a ++ b⟩ = isAbsolute ⟨a⟩ := by
  have hne : a.toList ≠ [] := by simpa using ha
  obtain ⟨c, cs, hcs⟩ := List.exists_cons_of_ne_nil hne
  rw [Bool.eq_iff_iff, isAbsolute_iff, isAbsolute_iff, String.toList_append, hcs]
  simp [List.cons_prefix_cons]

/-- What follows a slash does not tell where a path starts. -/
theorem isAbsolute_slash (a b c : String) :
    isAbsolute ⟨a ++ "/" ++ b⟩ = isAbsolute ⟨a ++ "/" ++ c⟩ := by
  have hne : a ++ "/" ≠ "" := by simp
  exact (isAbsolute_append b hne).trans (isAbsolute_append c hne).symm

/-! ## Parts -/

theorem parts_of_isAbsolute {p : Path} (h : p.isAbsolute = true) : p.parts = .root :: p.inner := by
  rw [parts, if_pos h]
  rfl

theorem parts_of_not_isAbsolute {p : Path} (h : p.isAbsolute = false) :
    p.parts = if p.pieces.head? = some "." then .here :: p.inner else p.inner := by
  rw [parts, if_neg (by simp [h])]
  rfl

theorem partOfPiece?_eq_some {piece : String} {part : Part} (h : partOfPiece? piece = some part) :
    part = .up ∧ piece = ".." ∨ part = .name piece ∧ piece ≠ "" ∧ piece ≠ "." ∧ piece ≠ ".." := by
  unfold partOfPiece? at h
  split at h
  · cases h
  · rename_i hdot
    split at h
    · rename_i hup
      exact .inl ⟨(Option.some.inj h).symm, hup⟩
    · rename_i hup
      simp only [Bool.or_eq_true, decide_eq_true_eq, not_or] at hdot
      exact .inr ⟨(Option.some.inj h).symm, hdot.1, hdot.2, hup⟩

/-- The inner parts are the parts without the root and the dot that a path may start with. -/
theorem filter_parts (p : Path) : p.parts.filter (fun x => x ≠ .root && x ≠ .here) = p.inner := by
  have hself : p.inner.filter (fun x => x ≠ .root && x ≠ .here) = p.inner := by
    refine List.filter_eq_self.2 fun x hx => ?_
    obtain ⟨piece, -, hpiece⟩ := List.mem_filterMap.1 hx
    rcases partOfPiece?_eq_some hpiece with ⟨rfl, -⟩ | ⟨rfl, -⟩ <;> rfl
  cases h : p.isAbsolute with
  | true => rw [parts_of_isAbsolute h, List.filter_cons_of_neg (by simp), hself]
  | false =>
    rw [parts_of_not_isAbsolute h]
    split
    · rw [List.filter_cons_of_neg (by simp), hself]
    · exact hself

/-- Paths of the same parts start alike and name the same. -/
theorem eq_iff_of_parts_eq {p q : Path} (h : p.parts = q.parts) :
    p.isAbsolute = q.isAbsolute ∧ p.inner = q.inner := by
  have habsolute (p : Path) : p.isAbsolute = true ↔ .root ∈ p.parts := by
    cases hp : p.isAbsolute with
    | true => simp [parts_of_isAbsolute hp]
    | false =>
      have hroot : .root ∉ p.inner := by
        rw [← filter_parts]
        simp
      rw [parts_of_not_isAbsolute hp]
      split <;> simp [hroot]
  refine ⟨?_, by rw [← filter_parts, h, filter_parts]⟩
  rw [Bool.eq_iff_iff, habsolute, habsolute, h]

/-! ## Single pieces -/

theorem pieces_of_not_mem {t : String} (ht : '/' ∉ t.toList) : pieces ⟨t⟩ = [t] := by
  have hfree : ∀ c ∈ t.toList, (c == '/') = false := by
    intro c hc
    rw [beq_eq_false_iff_ne]
    rintro rfl
    exact ht hc
  rw [pieces, splitAtChars_of_forall_not hfree]
  simp

theorem isAbsolute_of_not_mem {t : String} (ht : '/' ∉ t.toList) :
    isAbsolute ⟨t⟩ = false := by
  rw [Bool.eq_false_iff, Ne, isAbsolute_iff]
  intro hbegins
  exact ht (hbegins.subset (by simp))

theorem inner_of_not_mem {t : String} (ht : '/' ∉ t.toList) :
    inner ⟨t⟩ = [t].filterMap partOfPiece? := by
  rw [inner, pieces_of_not_mem ht]

/-! ## Joining -/

/-- A path that ends with a slash is continued behind it, another one behind a slash of its own. -/
theorem join_cases {p q : Path} (hp : p.text ≠ "") (hq : q.isAbsolute = false) :
    (∃ a, p = ⟨a ++ "/" ++ ""⟩ ∧ p / q = ⟨a ++ "/" ++ q.text⟩) ∨
      endsWith ['/'] p.text.toList = false ∧ p / q = ⟨p.text ++ "/" ++ q.text⟩ := by
  have hjoin : p / q = if p.text = "" || endsWith ['/'] p.text.toList then ⟨p.text ++ q.text⟩
      else ⟨p.text ++ "/" ++ q.text⟩ := by
    change join p q = _
    rw [join, if_neg (by simp [hq])]
  rw [hjoin]
  cases hend : endsWith ['/'] p.text.toList with
  | false => exact .inr ⟨rfl, by simp [hp]⟩
  | true =>
    obtain ⟨a, ha⟩ := Option.isSome_iff_exists.1 hend
    have htext : p.text = String.ofList a ++ "/" := by
      rw [← String.toList_inj, dropTail?_eq_some_iff.1 ha]
      simp
    refine .inl ⟨String.ofList a, ?_, by simp [htext]⟩
    rw [String.append_empty, ← htext]

theorem empty_join {q : Path} (hq : q.isAbsolute = false) : (⟨""⟩ : Path) / q = q := by
  change join ⟨""⟩ q = q
  rw [join, if_neg (by simp [hq]), if_pos (by simp), String.empty_append]

theorem join_of_isAbsolute {p q : Path} (hq : q.isAbsolute = true) : p / q = q := by
  change join p q = q
  rw [join, if_pos hq]

/-- A relative path adds what it names. -/
theorem inner_join (p : Path) {q : Path} (hq : q.isAbsolute = false) :
    (p / q).inner = p.inner ++ q.inner := by
  by_cases hp : p.text = ""
  · obtain rfl : p = ⟨""⟩ := congrArg mk hp
    rw [empty_join hq, inner_empty, List.nil_append]
  · rcases join_cases hp hq with ⟨a, rfl, hjoin⟩ | ⟨-, hjoin⟩
    · rw [hjoin, inner_slash, inner_slash, inner_empty, List.append_nil]
    · rw [hjoin, inner_slash]

theorem isAbsolute_join {p q : Path} (hp : p.text ≠ "") (hq : q.isAbsolute = false) :
    (p / q).isAbsolute = p.isAbsolute := by
  rcases join_cases hp hq with ⟨a, rfl, hjoin⟩ | ⟨-, hjoin⟩
  · rw [hjoin, isAbsolute_slash a _ ""]
  · rw [hjoin, String.append_assoc, isAbsolute_append _ hp]

theorem head?_pieces_join {p q : Path} (hp : p.text ≠ "") (hq : q.isAbsolute = false) :
    (p / q).pieces.head? = p.pieces.head? := by
  have hhead (a b : String) : (pieces ⟨a ++ "/" ++ b⟩).head? = (pieces ⟨a⟩).head? := by
    rw [pieces_slash, List.head?_append_of_ne_nil _ (pieces_ne_nil _)]
  rcases join_cases hp hq with ⟨a, rfl, hjoin⟩ | ⟨-, hjoin⟩
  · rw [hjoin, hhead, hhead]
  · rw [hjoin, hhead]

theorem parts_join {p q : Path} (hp : p.text ≠ "") (hq : q.isAbsolute = false) :
    (p / q).parts = p.parts ++ q.inner := by
  have habsolute := isAbsolute_join hp hq
  cases h : p.isAbsolute with
  | true =>
    rw [parts_of_isAbsolute h, parts_of_isAbsolute (habsolute.trans h), inner_join p hq,
      List.cons_append]
  | false =>
    rw [parts_of_not_isAbsolute h, parts_of_not_isAbsolute (habsolute.trans h), inner_join p hq,
      head?_pieces_join hp hq]
    split <;> simp

theorem join_text_ne_empty {p q : Path} (hp : p.text ≠ "") (hq : q.isAbsolute = false) :
    (p / q).text ≠ "" := by
  rcases join_cases hp hq with ⟨a, -, hjoin⟩ | ⟨-, hjoin⟩
  · rw [hjoin]
    simp
  · rw [hjoin]
    simp

/-! ## Spellings -/

/-- One more slash, or one more dot. -/
inductive Respells : Path → Path → Prop
  | slash (a b : String) : Respells ⟨a ++ "/" ++ b⟩ ⟨a ++ "//" ++ b⟩
  | dot (a b : String) : Respells ⟨a ++ "/" ++ b⟩ ⟨a ++ "/./" ++ b⟩
  | front (b : String) (hb : b ≠ "") (hrel : isAbsolute ⟨b⟩ = false) : Respells ⟨b⟩ ⟨"./" ++ b⟩
  | close (a : String) (ha : a ≠ "") : Respells ⟨a⟩ ⟨a ++ "/"⟩

/-- A respelled path starts as it did and names the same. -/
theorem Respells.keeps {p q : Path} (h : Respells p q) :
    p.isAbsolute = q.isAbsolute ∧ p.inner = q.inner ∧ p.text ≠ "" ∧ q.text ≠ "" := by
  have hdouble (a b m : String) : a ++ ("/" ++ m ++ "/") ++ b = a ++ "/" ++ (m ++ "/" ++ b) := by
    simp only [String.append_assoc]
  have hdot : inner ⟨"."⟩ = [] := by decide
  cases h with
  | slash a b =>
    have htext : a ++ "//" ++ b = a ++ "/" ++ ("" ++ "/" ++ b) := hdouble a b ""
    rw [htext]
    refine ⟨isAbsolute_slash .., ?_, by simp, by simp⟩
    rw [inner_slash, inner_slash, inner_slash, inner_empty, List.nil_append]
  | dot a b =>
    have htext : a ++ "/./" ++ b = a ++ "/" ++ ("." ++ "/" ++ b) := hdouble a b "."
    rw [htext]
    refine ⟨isAbsolute_slash .., ?_, by simp, by simp⟩
    rw [inner_slash, inner_slash, inner_slash, hdot, List.nil_append]
  | front b hb hrel =>
    have htext : "./" ++ b = "." ++ "/" ++ b := rfl
    rw [htext]
    refine ⟨?_, ?_, hb, by simp⟩
    · rw [hrel, isAbsolute_slash "." b ""]
      decide
    · rw [inner_slash, hdot, List.nil_append]
  | close a ha =>
    refine ⟨(isAbsolute_append _ ha).symm, ?_, ha, by simp⟩
    have htext : a ++ "/" = a ++ "/" ++ "" := (String.append_empty).symm
    rw [htext, inner_slash, inner_empty, List.append_nil]

end Path

/-! ## Paths below a path -/

namespace Disk

open SpecCoverage.Path

theorem pathBelow_text_ne_empty {root : Path} {ts : List String} (hroot : root.text ≠ "")
    (hts : ∀ t ∈ ts, '/' ∉ t.toList) : (pathBelow root ts).text ≠ "" := by
  induction ts generalizing root with
  | nil => exact hroot
  | cons t ts ih =>
    obtain ⟨ht, hts⟩ := List.forall_mem_cons.1 hts
    exact ih (join_text_ne_empty hroot (isAbsolute_of_not_mem ht)) hts

theorem parts_pathBelow {root : Path} {ts : List String} (hroot : root.text ≠ "")
    (hts : ∀ t ∈ ts, '/' ∉ t.toList) :
    (pathBelow root ts).parts = root.parts ++ ts.filterMap partOfPiece? := by
  induction ts generalizing root with
  | nil => simp [pathBelow]
  | cons t ts ih =>
    obtain ⟨ht, hts⟩ := List.forall_mem_cons.1 hts
    have hrelative := isAbsolute_of_not_mem ht
    have hbelow : pathBelow root (t :: ts) = pathBelow (root / ⟨t⟩) ts := rfl
    rw [hbelow, ih (join_text_ne_empty hroot hrelative) hts, parts_join hroot hrelative,
      inner_of_not_mem ht, List.append_assoc, ← List.filterMap_append, List.singleton_append]

theorem isAbsolute_pathBelow {root : Path} {ts : List String} (hroot : root.text ≠ "")
    (hts : ∀ t ∈ ts, '/' ∉ t.toList) : (pathBelow root ts).isAbsolute = root.isAbsolute := by
  induction ts generalizing root with
  | nil => rfl
  | cons t ts ih =>
    obtain ⟨ht, hts⟩ := List.forall_mem_cons.1 hts
    have hrelative := isAbsolute_of_not_mem ht
    exact (ih (join_text_ne_empty hroot hrelative) hts).trans (isAbsolute_join hroot hrelative)

end Disk

/-! ## Absolute paths -/

namespace Path

theorem text_of_mem_inner {p : Path} {part : Part} (h : part ∈ p.inner) :
    '/' ∉ part.text.toList ∧ partOfPiece? part.text = some part := by
  obtain ⟨piece, hmem, hpiece⟩ := List.mem_filterMap.1 h
  have hslash : '/' ∉ piece.toList := by
    obtain ⟨w, hw, rfl⟩ := List.mem_map.1 hmem
    rw [String.toList_ofList]
    exact not_mem_of_mem_splitAtChars (by decide) hw
  have htext : part.text = piece := by
    rcases partOfPiece?_eq_some hpiece with ⟨rfl, rfl⟩ | ⟨rfl, -⟩ <;> rfl
  rw [htext]
  exact ⟨hslash, hpiece⟩

/-- The texts of what a path names are read as what it names. -/
theorem filterMap_text_inner (p : Path) :
    (p.inner.map Part.text).filterMap partOfPiece? = p.inner := by
  rw [List.filterMap_map]
  have hsome : ∀ part ∈ p.inner, (partOfPiece? ∘ Part.text) part = some part :=
    fun part hpart => (text_of_mem_inner hpart).2
  rw [List.filterMap_congr hsome, List.filterMap_some]

theorem text_inner_not_mem (p : Path) : ∀ t ∈ p.inner.map Part.text, '/' ∉ t.toList := by
  intro t ht
  obtain ⟨part, hpart, rfl⟩ := List.mem_map.1 ht
  exact (text_of_mem_inner hpart).1

end Path

namespace Disk

open SpecCoverage.Path

theorem current_isAbsolute (a : Address) : a.path.isAbsolute = true := by
  rw [isAbsolute_iff, Address.path, String.toList_append]
  exact List.prefix_append ..

theorem current_text_ne_empty (a : Address) : a.path.text ≠ "" := by
  simp [Address.path]

/-- A relative path is made absolute by putting what it names below the current directory. -/
theorem absolute_of_relative (d : Disk) {p : Path} (hp : p.text ≠ "") (hrel : p.isAbsolute = false) :
    d.absolute p = .ok (if endsWith ['/'] p.text.toList then
      pathBelow d.current.path (p.inner.map Part.text) / ⟨""⟩
    else pathBelow d.current.path (p.inner.map Part.text)) := by
  unfold absolute
  rw [if_neg hp]
  simp only [hrel, Bool.not_false, if_true, filter_parts, pathBelow, List.foldl_map]

/-- The absolute path of a relative one names what the relative one names below the current
directory. -/
theorem parts_absolute {d : Disk} {p q : Path} (hp : p.text ≠ "") (hrel : p.isAbsolute = false)
    (hq : d.absolute p = .ok q) :
    q.isAbsolute = true ∧ q.parts = d.current.path.parts ++ p.inner := by
  have hroot := current_text_ne_empty d.current
  have hts := p.text_inner_not_mem
  have hne := pathBelow_text_ne_empty hroot hts
  have hparts := parts_pathBelow hroot hts
  rw [filterMap_text_inner] at hparts
  have habsolute := (isAbsolute_pathBelow hroot hts).trans (current_isAbsolute d.current)
  rw [absolute_of_relative d hp hrel] at hq
  cases hq
  have hempty : isAbsolute ⟨""⟩ = false := by decide
  split
  · refine ⟨(isAbsolute_join hne hempty).trans habsolute, ?_⟩
    rw [parts_join hne hempty, inner_empty, List.append_nil, hparts]
  · exact ⟨habsolute, hparts⟩

end Disk

end SpecCoverage
