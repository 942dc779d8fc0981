-- SUMMARY: Finite sets kept as strictly increasing lists.

/-!
# Sorted sets

A set is the strictly increasing list of its elements, so sets with the same elements are equal.
Membership is the view: `mem_insert` and `mem_ofList` say what the operations do to it.
-/
namespace SpecCoverage

/-- A finite set, its elements in strictly increasing order. -/
structure SortedSet (α : Type) [Ord α] where
  toList : List α
  sorted : toList.Pairwise fun a b => compare a b = .lt

namespace SortedSet

variable {α β : Type} [Ord α]

theorem ext {s t : SortedSet α} (h : s.toList = t.toList) : s = t := by
  cases s; cases t; simp_all

instance [DecidableEq α] : DecidableEq (SortedSet α) := fun s t =>
  if h : s.toList = t.toList then isTrue (ext h) else isFalse fun e => h (e ▸ rfl)

def empty : SortedSet α := ⟨[], .nil⟩

instance : EmptyCollection (SortedSet α) := ⟨empty⟩

instance : Inhabited (SortedSet α) := ⟨empty⟩

instance : Membership α (SortedSet α) := ⟨fun s a => a ∈ s.toList⟩

theorem mem_def {a : α} {s : SortedSet α} : a ∈ s ↔ a ∈ s.toList := Iff.rfl

instance [DecidableEq α] (a : α) (s : SortedSet α) : Decidable (a ∈ s) :=
  inferInstanceAs (Decidable (a ∈ s.toList))

def isEmpty (s : SortedSet α) : Bool := s.toList.isEmpty

/-- An element of a strictly increasing list is the first one or comes after it. -/
theorem eq_or_lt_of_mem_cons {x y : α} {xs : List α}
    (h : (x :: xs).Pairwise fun a b => compare a b = .lt) (hy : y ∈ x :: xs) :
    y = x ∨ compare x y = .lt := by
  rcases List.mem_cons.1 hy with rfl | hy
  · exact .inl rfl
  · exact .inr ((List.pairwise_cons.1 h).1 y hy)

-- ---------------------------------------------------------------------------
-- Insertion
-- ---------------------------------------------------------------------------

/-- Put `a` at its place, unless it is there. -/
def insertElements (a : α) : List α → List α
  | [] => [a]
  | x :: xs =>
    match compare a x with
    | .lt => a :: x :: xs
    | .eq => x :: xs
    | .gt => x :: insertElements a xs

theorem mem_insertElements [Std.LawfulEqOrd α] {a x : α} {xs : List α} :
    x ∈ insertElements a xs ↔ x = a ∨ x ∈ xs := by
  induction xs with
  | nil => simp [insertElements]
  | cons y ys ih =>
    unfold insertElements
    split
    · simp
    · rename_i h
      have : a = y := Std.LawfulEqCmp.eq_of_compare h
      simp [this]
    · simp only [List.mem_cons, ih]
      grind

theorem lt_of_mem_insertElements {a b : α} {xs : List α} (hb : compare b a = .lt)
    (h : ∀ x ∈ xs, compare b x = .lt) : ∀ x ∈ insertElements a xs, compare b x = .lt := by
  induction xs with
  | nil => simpa [insertElements] using hb
  | cons y ys ih =>
    intro x hx
    unfold insertElements at hx
    split at hx <;> grind

theorem insertElements_sorted [Std.TransOrd α] {a : α} {xs : List α}
    (h : xs.Pairwise fun a b => compare a b = .lt) :
    (insertElements a xs).Pairwise fun a b => compare a b = .lt := by
  induction xs with
  | nil => simp [insertElements]
  | cons x xs ih =>
    obtain ⟨hx, hxs⟩ := List.pairwise_cons.1 h
    unfold insertElements
    split
    · rename_i hax
      refine List.pairwise_cons.2 ⟨fun y hy => ?_, h⟩
      rcases List.mem_cons.1 hy with rfl | hy
      · exact hax
      · exact Std.TransCmp.lt_trans hax (hx y hy)
    · exact h
    · rename_i hax
      exact List.pairwise_cons.2
        ⟨lt_of_mem_insertElements (Std.OrientedCmp.lt_of_gt hax) hx, ih hxs⟩

variable [Std.TransOrd α]

def insert (s : SortedSet α) (a : α) : SortedSet α :=
  ⟨insertElements a s.toList, insertElements_sorted s.sorted⟩

theorem mem_insert [Std.LawfulEqOrd α] {a x : α} {s : SortedSet α} :
    x ∈ s.insert a ↔ x = a ∨ x ∈ s :=
  mem_insertElements

/-- Insert every element of a list. -/
def insertAll (s : SortedSet α) (xs : List α) : SortedSet α := xs.foldr (fun x t => t.insert x) s

theorem mem_insertAll [Std.LawfulEqOrd α] {x : α} {xs : List α} {s : SortedSet α} :
    x ∈ s.insertAll xs ↔ x ∈ s ∨ x ∈ xs := by
  induction xs with
  | nil => simp [insertAll]
  | cons y ys ih =>
    simp only [insertAll, List.foldr_cons, mem_insert, List.mem_cons] at ih ⊢
    rw [ih]
    grind

def ofList (xs : List α) : SortedSet α := empty.insertAll xs

theorem mem_ofList [Std.LawfulEqOrd α] {x : α} {xs : List α} : x ∈ ofList xs ↔ x ∈ xs := by
  rw [ofList, mem_insertAll]
  simp [mem_def, empty]

/-- Strictly increasing lists with the same elements are equal. -/
theorem eq_of_mem_iff_mem {xs ys : List α} (hxs : xs.Pairwise fun a b => compare a b = .lt)
    (hys : ys.Pairwise fun a b => compare a b = .lt) (h : ∀ a, a ∈ xs ↔ a ∈ ys) : xs = ys := by
  induction xs generalizing ys with
  | nil => exact (List.eq_nil_iff_forall_not_mem.2 fun a ha => by simpa using (h a).2 ha).symm
  | cons x xs ih =>
    cases ys with
    | nil => exact absurd ((h x).1 (by simp)) (by simp)
    | cons y ys =>
      have hxy : x = y := by
        rcases eq_or_lt_of_mem_cons hys ((h x).1 (by simp)) with e | hyx
        · exact e
        · rcases eq_or_lt_of_mem_cons hxs ((h y).2 (by simp)) with e | hxy
          · exact e.symm
          · exact absurd (Std.TransCmp.lt_trans hyx hxy) (by simp)
      subst hxy
      obtain ⟨hx, hxs⟩ := List.pairwise_cons.1 hxs
      obtain ⟨hy, hys⟩ := List.pairwise_cons.1 hys
      have hne : ∀ {a : α}, compare x a = .lt → a ≠ x := by
        rintro a ha rfl
        simp at ha
      rw [ih hxs hys fun a => ?_]
      have ha := h a
      simp only [List.mem_cons] at ha
      constructor
      · exact fun hm => (ha.1 (.inr hm)).resolve_left (hne (hx a hm))
      · exact fun hm => (ha.2 (.inr hm)).resolve_left (hne (hy a hm))

/-- Sets with the same elements are equal. -/
theorem eq_of_mem_iff {s t : SortedSet α} (h : ∀ a, a ∈ s ↔ a ∈ t) : s = t :=
  ext (eq_of_mem_iff_mem s.sorted t.sorted h)

end SortedSet

end SpecCoverage
