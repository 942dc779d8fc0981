-- SUMMARY: Disks that differ in times alone: paths lead to the same places, and fail with the same errors.
import SpecCoverage.Proofs.DiskTree

/-!
# Times and ways

Where a path leads does not depend on when anything was changed, nor on the order in which a disk
lists its nodes. So two disks that are alike but for these give the same answers, errors included,
up to the times of the nodes that are found.
-/
namespace SpecCoverage

/-- Nodes that differ in the times of their last changes alone. -/
inductive Node.Alike : Node → Node → Prop
  | file (content : ByteArray) (t t' : Time) (executable : Bool) :
    Alike (.file content t executable) (.file content t' executable)
  | directory (t t' : Time) : Alike (.directory t) (.directory t')
  | link (target : Path) : Alike (.link target) (.link target)

theorem Node.Alike.refl (x : Node) : x.Alike x := by
  cases x with
  | file content t e => exact .file content t t e
  | directory t => exact .directory t t
  | link target => exact .link target

theorem Node.Alike.symm {x x' : Node} (h : x.Alike x') : x'.Alike x := by
  cases h with
  | file content t t' e => exact .file content t' t e
  | directory t t' => exact .directory t' t
  | link target => exact .link target

namespace Disk

/-- Disks with the same nodes at the same addresses, but for the times of their last changes. -/
structure Retimed (d d' : Disk) : Prop where
  current : d'.current = d.current
  nodes : ∀ a, Option.Rel Node.Alike (d.node? a) (d'.node? a)

/-- Both fail with one error, or neither fails and the results are related. -/
inductive Agree {α : Type} (S : α → α → Prop) : Except FileError α → Except FileError α → Prop
  | ok {x y : α} (h : S x y) : Agree S (.ok x) (.ok y)
  | error (e : FileError) : Agree S (.error e) (.error e)

inductive Found.Alike : Found → Found → Prop
  | node (a : Address) {x x' : Node} (h : x.Alike x') : Alike (.node a x) (.node a x')
  | missing (a : Address) : Alike (.missing a) (.missing a)

namespace Retimed

variable {d d' : Disk} {a : Address} {x x' : Node} {p : Path}

theorem symm (h : d.Retimed d') : d'.Retimed d where
  current := h.current.symm
  nodes a := by
    have hnode := h.nodes a
    generalize d.node? a = n, d'.node? a = n' at hnode
    cases hnode with
    | none => exact .none
    | some halike => exact .some halike.symm

/-- The nodes in one order, one after the other at another time. -/
theorem of_forall₂ (hcurrent : d'.current = d.current)
    (h : List.Forall₂ (fun e e' => e.1 = e'.1 ∧ e.2.Alike e'.2) d.nodes d'.nodes) :
    d.Retimed d' where
  current := hcurrent
  nodes a := by
    unfold node?
    split
    · exact .some (.directory d.now d'.now)
    · generalize d.nodes = es, d'.nodes = es' at h
      induction h with
      | nil => exact .none
      | @cons e e' es es' he _ ih =>
        obtain ⟨hkey, halike⟩ := he
        rw [List.lookup_cons, List.lookup_cons, hkey]
        cases a == e'.1 with
        | true => exact .some halike
        | false => exact ih

/-- The nodes in another order. -/
theorem of_perm (htree : d.IsTree) {ns : List (Address × Node)} (hperm : ns.Perm d.nodes) :
    d.Retimed { d with nodes := ns } where
  current := rfl
  nodes a := by
    rw [htree.node?_of_perm hperm]
    cases d.node? a with
    | none => exact .none
    | some x => exact .some (.refl x)

theorem exists_node? (h : d.Retimed d') (hx : d.node? a = some x) :
    ∃ x', d'.node? a = some x' ∧ x.Alike x' := by
  have hnode := h.nodes a
  rw [hx] at hnode
  generalize d'.node? a = n' at hnode
  cases hnode with
  | some halike => exact ⟨_, rfl, halike⟩

/-! ## Ways -/

/-- The same way is taken on both disks, one step after the other. -/
theorem agree_walkSteps (h : d.Retimed d') {aim : Aim}
    {onLink onLink' : Address → List Step → Except FileError Found}
    (hlink : ∀ a ss, Agree Found.Alike (onLink a ss) (onLink' a ss)) (a : Address)
    (ss : List Step) :
    Agree Found.Alike (d.walkSteps aim onLink a ss) (d'.walkSteps aim onLink' a ss) := by
  induction ss generalizing a with
  | nil =>
    have hnode := h.nodes a
    unfold walkSteps
    generalize d.node? a = n, d'.node? a = n' at hnode
    cases hnode with
    | none => exact .error _
    | some halike => exact .ok (.node a halike)
  | cons s ss ih =>
    have hnode := h.nodes a
    unfold walkSteps
    generalize d.node? a = n, d'.node? a = n' at hnode
    cases hnode with
    | none => exact .error _
    | some halike =>
      cases halike with
      | file | link => exact .error _
      | directory =>
        cases s with
        | slash | stay => exact ih a
        | up => exact ih a.dropLast
        | enter name =>
          have hnext := h.nodes (a ++ [name])
          have hon := ih (a ++ [name])
          dsimp only
          generalize d.node? (a ++ [name]) = n, d'.node? (a ++ [name]) = n' at hnext
          split
          · exact .error _
          split
          · exact .error _
          cases hnext with
          | none =>
            dsimp only
            split
            · exact .ok (.missing _)
            · exact .error _
          | some halike =>
            cases halike with
            | file | directory => exact hon
            | link target =>
              dsimp only
              split
              · exact .ok (.node _ (.link target))
              · exact hlink _ _

theorem agree_walk (h : d.Retimed d') (aim : Aim) (links : Nat) (a : Address) (ss : List Step) :
    Agree Found.Alike (d.walk aim links a ss) (d'.walk aim links a ss) := by
  induction links generalizing a ss with
  | zero =>
    rw [walk, walk]
    exact h.agree_walkSteps (fun _ _ => .error _) a ss
  | succ links ih =>
    rw [walk, walk]
    exact h.agree_walkSteps ih a ss

theorem agree_stat (h : d.Retimed d') (p : Path) :
    Agree (fun found found' => found.1 = found'.1 ∧ found.2.Alike found'.2) (d.stat p)
      (d'.stat p) := by
  have hfind : Agree Found.Alike (d.find .target p) (d'.find .target p) := by
    unfold find
    rw [h.current]
    split
    · exact .error _
    split
    · exact .error _
    split
    · exact .error _
    · exact h.agree_walk ..
  unfold stat
  generalize d.find .target p = found, d'.find .target p = found' at hfind
  cases hfind with
  | error => exact .error _
  | ok hfound =>
    cases hfound with
    | node a halike => exact .ok ⟨rfl, halike⟩
    | missing => exact .error _

theorem exists_stat (h : d.Retimed d') (hstat : d.stat p = .ok (a, x)) :
    ∃ x', d'.stat p = .ok (a, x') ∧ x.Alike x' := by
  have hagree := h.agree_stat p
  rw [hstat] at hagree
  generalize d'.stat p = found' at hagree
  cases hagree with
  | @ok _ y hok =>
    obtain ⟨b, y⟩ := y
    obtain ⟨rfl, halike⟩ := hok
    exact ⟨y, rfl, halike⟩

theorem stat_eq_error (h : d.Retimed d') {e : FileError} (hstat : d.stat p = .error e) :
    d'.stat p = .error e := by
  have hagree := h.agree_stat p
  rw [hstat] at hagree
  generalize d'.stat p = found' at hagree
  cases hagree
  rfl

end Retimed

/-! ## Times -/

section

variable {d d' : Disk} {p : Path} {t : Time} {e : FileError}

theorem modified_eq_ok_iff :
    d.modified p = .ok t ↔ ∃ a x, d.stat p = .ok (a, x) ∧ x.modified?.getD d.now = t := by
  unfold modified
  rcases d.stat p with e | ⟨a, x⟩ <;> simp [Except.map]

theorem modified_eq_error_iff : d.modified p = .error e ↔ d.stat p = .error e := by
  unfold modified
  cases d.stat p <;> simp [Except.map]

theorem Retimed.exists_modified (h : d.Retimed d') (ht : d.modified p = .ok t) :
    ∃ t', d'.modified p = .ok t' := by
  obtain ⟨a, x, hstat, -⟩ := modified_eq_ok_iff.1 ht
  obtain ⟨x', hstat', -⟩ := h.exists_stat hstat
  exact ⟨_, modified_eq_ok_iff.2 ⟨a, x', hstat', rfl⟩⟩

theorem Retimed.modified_eq_error (h : d.Retimed d') (he : d.modified p = .error e) :
    d'.modified p = .error e :=
  modified_eq_error_iff.2 (h.stat_eq_error (modified_eq_error_iff.1 he))

/-- Where nothing has another time, paths lead to the same times. -/
theorem Retimed.modified_eq (h : d.Retimed d') (hnow : d'.now = d.now)
    (hnodes : ∀ a, d'.node? a = d.node? a) : d'.modified p = d.modified p := by
  cases ht : d.modified p with
  | error e => exact h.modified_eq_error ht
  | ok t =>
    obtain ⟨a, x, hstat, hx⟩ := modified_eq_ok_iff.1 ht
    obtain ⟨x', hstat', -⟩ := h.exists_stat hstat
    have hnode : some x' = some x := by
      rw [← (stat_eq_ok_iff.1 hstat').2.node?_eq, ← (stat_eq_ok_iff.1 hstat).2.node?_eq, hnodes]
    cases hnode
    exact modified_eq_ok_iff.2 ⟨a, x, hstat', hnow ▸ hx⟩

end

end Disk

end SpecCoverage
