-- SUMMARY: Traversing a list with a state: each result comes from its element, in some state.
import Mathlib.Data.List.Forall2

/-!
# Traversals with a state

A traversal of a list in `StateM` passes the state from element to element. What holds of the step
in every state holds of each result, whatever was met before it.
-/
namespace SpecCoverage.Traversal

variable {σ α β γ : Type}

/-- Is `b` what a step gives for `a` in some state? -/
def Gives (f : α → StateM σ β) (a : α) (b : β) : Prop :=
  ∃ s, b = ((f a).run s).1

theorem forall₂_gives_mapM (f : α → StateM σ β) (xs : List α) (s : σ) :
    List.Forall₂ (Gives f) xs ((xs.mapM f).run s).1 := by
  induction xs generalizing s with
  | nil => exact .nil
  | cons x xs ih =>
    rw [List.mapM_cons]
    exact .cons ⟨s, rfl⟩ (ih _)

/-- Steps that agree on the elements of a list give one traversal of it. -/
theorem mapM_congr {f g : α → StateM σ β} {xs : List α} (h : ∀ a ∈ xs, f a = g a) :
    xs.mapM f = xs.mapM g := by
  induction xs with
  | nil => rfl
  | cons x xs ih =>
    rw [List.mapM_cons, List.mapM_cons, h x List.mem_cons_self,
      ih fun a ha => h a (List.mem_cons_of_mem x ha)]

/-- Steps that pass on the same states and give results that differ by a function. -/
theorem mapM_map_congr {f g : α → StateM σ β} {φ : β → β}
    (h : ∀ a s, (g a).run s = (φ ((f a).run s).1, ((f a).run s).2)) (xs : List α) (s : σ) :
    (xs.mapM g).run s = (((xs.mapM f).run s).1.map φ, ((xs.mapM f).run s).2) := by
  induction xs generalizing s with
  | nil => rfl
  | cons x xs ih =>
    rw [List.mapM_cons, List.mapM_cons]
    simp only [StateT.run_bind, h, ih]
    rfl

/-- A part of the results that the step takes over from the elements. -/
theorem map_mapM_eq {f : α → StateM σ β} {g : β → γ} {h : α → γ} {xs : List α} {s : σ}
    (hg : ∀ a s, g ((f a).run s).1 = h a) : ((xs.mapM f).run s).1.map g = xs.map h := by
  have hall := forall₂_gives_mapM f xs s
  generalize ((xs.mapM f).run s).1 = ys at hall
  induction hall with
  | nil => rfl
  | cons hab _ ih =>
    obtain ⟨s', rfl⟩ := hab
    rw [List.map_cons, List.map_cons, hg, ih]

/-- Each result comes from an element. -/
theorem exists_gives_of_mem_mapM {f : α → StateM σ β} {xs : List α} {s : σ} {b : β}
    (hb : b ∈ ((xs.mapM f).run s).1) : ∃ a ∈ xs, Gives f a b := by
  have hall := forall₂_gives_mapM f xs s
  generalize ((xs.mapM f).run s).1 = ys at hall hb
  induction hall with
  | nil => cases hb
  | cons hab _ ih =>
    rcases List.mem_cons.1 hb with rfl | hb
    · exact ⟨_, List.mem_cons_self, hab⟩
    · obtain ⟨a, ha, hgives⟩ := ih hb
      exact ⟨a, List.mem_cons_of_mem _ ha, hgives⟩

/-- Steps that keep a relation between two states and give related results. -/
theorem mapM_simulates (f f' : α → StateM σ β) (xs : List α) {R : σ → σ → Prop} {Q : β → β → Prop}
    (hstep : ∀ a ∈ xs, ∀ s s', R s s' →
      Q ((f a).run s).1 ((f' a).run s').1 ∧ R ((f a).run s).2 ((f' a).run s').2)
    {s s' : σ} (h : R s s') :
    List.Forall₂ Q ((xs.mapM f).run s).1 ((xs.mapM f').run s').1 ∧
      R ((xs.mapM f).run s).2 ((xs.mapM f').run s').2 := by
  induction xs generalizing s s' with
  | nil => exact ⟨.nil, h⟩
  | cons x xs ih =>
    obtain ⟨hresult, hstate⟩ := hstep x List.mem_cons_self s s' h
    obtain ⟨hresults, hstates⟩ := ih (fun a ha => hstep a (List.mem_cons_of_mem x ha)) hstate
    rw [List.mapM_cons, List.mapM_cons]
    exact ⟨.cons hresult hresults, hstates⟩

/-- The same with one more element in the second traversal, whose step alone keeps the relation. -/
theorem mapM_insert_simulates (f f' : α → StateM σ β) (xs : List α) (a : α) (ys : List α)
    {R : σ → σ → Prop} {Q : β → β → Prop}
    (hstep : ∀ x ∈ xs ++ ys, ∀ s s', R s s' →
      Q ((f x).run s).1 ((f' x).run s').1 ∧ R ((f x).run s).2 ((f' x).run s').2)
    (hadded : ∀ s s', R s s' → R s ((f' a).run s').2) {s s' : σ} (h : R s s') :
    ∃ before b after, (((xs ++ a :: ys).mapM f').run s').1 = before ++ b :: after ∧ Gives f' a b ∧
      List.Forall₂ Q (((xs ++ ys).mapM f).run s).1 (before ++ after) := by
  -- The states are related before the added element, behind it, and so to the end.
  obtain ⟨hbefore, hstate⟩ := mapM_simulates f f' xs
    (fun x hx => hstep x (List.mem_append_left ys hx)) h
  obtain ⟨hafter, -⟩ := mapM_simulates f f' ys
    (fun x hx => hstep x (List.mem_append_right xs hx)) (hadded _ _ hstate)
  have hrun : (((xs ++ ys).mapM f).run s).1 =
      ((xs.mapM f).run s).1 ++ ((ys.mapM f).run ((xs.mapM f).run s).2).1 := by
    rw [List.mapM_append]
    rfl
  rw [hrun]
  refine ⟨_, _, _, ?_, ⟨((xs.mapM f').run s').2, rfl⟩, List.rel_append hbefore hafter⟩
  rw [List.mapM_append, List.mapM_cons]
  rfl

/-- A traversal keeps what its steps keep. -/
theorem mapM_keeps (f : α → StateM σ β) (xs : List α) {P : σ → Prop}
    (hstep : ∀ a ∈ xs, ∀ s, P s → P ((f a).run s).2) {s : σ} (h : P s) :
    P ((xs.mapM f).run s).2 := by
  induction xs generalizing s with
  | nil => exact h
  | cons x xs ih =>
    rw [List.mapM_cons]
    exact ih (fun a ha => hstep a (List.mem_cons_of_mem x ha)) (hstep x List.mem_cons_self s h)

/-- Elements that leave the state alone can be left out with their results. -/
theorem mapM_filter {f : α → StateM σ β} {p : α → Bool} {q : β → Bool}
    (hresult : ∀ a s, q ((f a).run s).1 = p a)
    (hstate : ∀ a s, p a = false → ((f a).run s).2 = s) (xs : List α) (s : σ) :
    ((xs.filter p).mapM f).run s =
      (((xs.mapM f).run s).1.filter q, ((xs.mapM f).run s).2) := by
  induction xs generalizing s with
  | nil => rfl
  | cons x xs ih =>
    have hrun : ((x :: xs).mapM f).run s =
        (((f x).run s).1 :: ((xs.mapM f).run ((f x).run s).2).1,
          ((xs.mapM f).run ((f x).run s).2).2) := by
      rw [List.mapM_cons]
      rfl
    rw [hrun, List.filter_cons, List.filter_cons, hresult]
    cases hx : p x with
    | true =>
      rw [if_pos rfl, if_pos rfl, List.mapM_cons]
      simp only [StateT.run_bind, ih]
      rfl
    | false =>
      rw [if_neg Bool.false_ne_true, if_neg Bool.false_ne_true, hstate x s hx]
      exact ih s

end SpecCoverage.Traversal
