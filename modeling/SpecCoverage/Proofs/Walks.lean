-- SUMMARY: Where paths lead on a disk: dots and slashes on the way do not matter, and a way goes on where the one before it ended.
import SpecCoverage.Proofs.PathParts

/-!
# Ways along paths

`Leads` lists the steps by which a way gets to a node. A way that leads to a node leads there also
without its dots and extra slashes (`Thins`), so two spellings of one path lead to the same node
wherever both lead to one; a spelling with a slash behind a file leads nowhere.
-/
namespace SpecCoverage.Disk

namespace Step

/-- Does the step leave the place where it is taken? -/
def Moves : Step → Prop
  | .slash | .stay => False
  | .up | .enter _ => True

instance : DecidablePred Moves
  | .slash | .stay => isFalse id
  | .up | .enter _ => isTrue trivial

end Step

/-- The way from an address along steps to a node, following at most so many links. -/
inductive Leads (d : Disk) : Nat → Address → List Step → Address → Node → Prop
  | here {n : Nat} {a : Address} {x : Node} (hnode : d.node? a = some x) : Leads d n a [] a x
  | stay {n : Nat} {a b : Address} {s : Step} {ss : List Step} {x : Node} {t : Time}
    (hdir : d.node? a = some (.directory t)) (hs : ¬ s.Moves) (h : Leads d n a ss b x) :
    Leads d n a (s :: ss) b x
  | up {n : Nat} {a b : Address} {ss : List Step} {x : Node} {t : Time}
    (hdir : d.node? a = some (.directory t)) (h : Leads d n a.dropLast ss b x) :
    Leads d n a (.up :: ss) b x
  | enter {n : Nat} {a b : Address} {name : String} {ss : List Step} {x y : Node} {t : Time}
    (hdir : d.node? a = some (.directory t)) (hname : name.utf8ByteSize ≤ nameLimit)
    (hnode : d.node? (a ++ [name]) = some y) (hlink : ∀ target, y ≠ .link target)
    (h : Leads d n (a ++ [name]) ss b x) : Leads d n a (.enter name :: ss) b x
  | follow {n : Nat} {a b : Address} {name : String} {ss : List Step} {x : Node} {t : Time}
    {target : Path} (hdir : d.node? a = some (.directory t))
    (hname : name.utf8ByteSize ≤ nameLimit) (hnode : d.node? (a ++ [name]) = some (.link target))
    (h : Leads d n (origin a target) (stepsOf target ++ ss) b x) :
    Leads d (n + 1) a (.enter name :: ss) b x

variable {d : Disk} {a b : Address} {x : Node} {n : Nat}

/-! ## Walking is following a way -/

theorem leads_of_walkSteps {onLink : Address → List Step → Except FileError Found}
    (hfollow : ∀ a name ss t target, d.node? a = some (.directory t) →
      name.utf8ByteSize ≤ nameLimit → d.node? (a ++ [name]) = some (.link target) →
      onLink (origin a target) (stepsOf target ++ ss) = .ok (.node b x) →
      Leads d n a (.enter name :: ss) b x) {ss : List Step}
    (hwalk : d.walkSteps .target onLink a ss = .ok (.node b x)) : Leads d n a ss b x := by
  induction ss generalizing a with
  | nil =>
    unfold walkSteps at hwalk
    split at hwalk
    · rename_i y hnode
      cases hwalk
      exact .here hnode
    · cases hwalk
  | cons s ss ih =>
    unfold walkSteps at hwalk
    cases hnode : d.node? a with
    | none => simp [hnode] at hwalk
    | some y =>
      cases y with
      | file | link => simp [hnode] at hwalk
      | directory t =>
        simp only [hnode] at hwalk
        cases s with
        | slash | stay => exact .stay hnode id (ih hwalk)
        | up => exact .up hnode (ih hwalk)
        | enter name =>
          by_cases hname : name.utf8ByteSize > nameLimit
          · simp [hname] at hwalk
          have hshort : name.utf8ByteSize ≤ nameLimit := Nat.le_of_not_lt hname
          cases hnext : d.node? (a ++ [name]) with
          | none =>
            by_cases hend : ss = [] <;> simp [hnext, hname, hend] at hwalk
          | some y =>
            cases y with
            | link target =>
              refine hfollow a name ss t target hnode hshort hnext ?_
              simpa [hnext, hname] using hwalk
            | file | directory =>
              refine .enter hnode hshort hnext (by simp) (ih ?_)
              simpa [hnext, hname] using hwalk

theorem leads_of_walk {ss : List Step} (hwalk : d.walk .target n a ss = .ok (.node b x)) :
    Leads d n a ss b x := by
  induction n generalizing a ss with
  | zero =>
    unfold walk at hwalk
    exact leads_of_walkSteps (fun _ _ _ _ _ _ _ _ herror => by cases herror) hwalk
  | succ n ih =>
    unfold walk at hwalk
    exact leads_of_walkSteps
      (fun _ _ _ _ _ hdir hname hnode hlink => .follow hdir hname hnode (ih hlink)) hwalk

theorem Leads.walk_eq {ss : List Step} (h : Leads d n a ss b x) :
    d.walk .target n a ss = .ok (.node b x) := by
  have hsteps (n : Nat) : ∃ onLink, d.walk .target n = d.walkSteps .target onLink := by
    cases n with
    | zero => exact ⟨_, by rw [walk]⟩
    | succ n => exact ⟨_, by rw [walk]⟩
  induction h with
  | @here n _ _ hnode =>
    obtain ⟨onLink, hwalk⟩ := hsteps n
    rw [hwalk]
    unfold walkSteps
    simp [hnode]
  | @stay n _ _ s _ _ _ hdir hs _ ih =>
    obtain ⟨onLink, hwalk⟩ := hsteps n
    rw [hwalk] at ih ⊢
    unfold walkSteps
    cases s with
    | slash | stay => simpa [hdir] using ih
    | up | enter => exact absurd trivial hs
  | @up n _ _ _ _ _ hdir _ ih =>
    obtain ⟨onLink, hwalk⟩ := hsteps n
    rw [hwalk] at ih ⊢
    unfold walkSteps
    simpa [hdir] using ih
  | @enter n _ _ _ _ _ y _ hdir hname hnode hlink _ ih =>
    obtain ⟨onLink, hwalk⟩ := hsteps n
    rw [hwalk] at ih ⊢
    unfold walkSteps
    cases y with
    | link target => exact absurd rfl (hlink target)
    | file | directory => simpa [hdir, hnode, Nat.not_lt.2 hname] using ih
  | follow hdir hname hnode _ ih =>
    rw [walk]
    unfold walkSteps
    simpa [hdir, hnode, Nat.not_lt.2 hname] using ih

theorem walk_eq_iff {ss : List Step} :
    d.walk .target n a ss = .ok (.node b x) ↔ Leads d n a ss b x :=
  ⟨leads_of_walk, Leads.walk_eq⟩

/-! ## Dots and slashes on the way -/

/-- Some steps that do not move are left out. -/
inductive Thins : List Step → List Step → Prop
  | nil : Thins [] []
  | keep (s : Step) {ss ts : List Step} (h : Thins ss ts) : Thins (s :: ss) (s :: ts)
  | drop {s : Step} (hs : ¬ s.Moves) {ss ts : List Step} (h : Thins ss ts) : Thins (s :: ss) ts

namespace Thins

theorem refl (ss : List Step) : Thins ss ss := by
  induction ss with
  | nil => exact .nil
  | cons s ss ih => exact .keep s ih

theorem append {ss ts us vs : List Step} (h : Thins ss ts) (h' : Thins us vs) :
    Thins (ss ++ us) (ts ++ vs) := by
  induction h with
  | nil => exact h'
  | keep s _ ih => exact .keep s ih
  | drop hs _ ih => exact .drop hs ih

theorem trans {ss ts us : List Step} (h : Thins ss ts) (h' : Thins ts us) : Thins ss us := by
  induction h generalizing us with
  | nil => exact h'
  | keep s _ ih =>
    cases h' with
    | keep _ h' => exact .keep s (ih h')
    | drop hs h' => exact .drop hs (ih h')
  | drop hs _ ih => exact .drop hs (ih h')

theorem filter_moves (ss : List Step) : Thins ss (ss.filter fun s => s.Moves) := by
  induction ss with
  | nil => exact .nil
  | cons s ss ih =>
    by_cases hs : s.Moves
    · rw [List.filter_cons_of_pos (by simpa using hs)]
      exact .keep s ih
    · rw [List.filter_cons_of_neg (by simpa using hs)]
      exact .drop hs ih

end Thins

namespace Leads

/-- A way to a node leads there without steps that do not move. -/
theorem thins {ss ts : List Step} (h : Leads d n a ss b x) (hthins : Thins ss ts) :
    Leads d n a ts b x := by
  induction h generalizing ts with
  | here hnode =>
    cases hthins
    exact .here hnode
  | stay hdir hs _ ih =>
    cases hthins with
    | keep _ hthins => exact .stay hdir hs (ih hthins)
    | drop _ hthins => exact ih hthins
  | up hdir _ ih =>
    cases hthins with
    | keep _ hthins => exact .up hdir (ih hthins)
    | drop hmoves => exact absurd trivial hmoves
  | enter hdir hname hnode hlink _ ih =>
    cases hthins with
    | keep _ hthins => exact .enter hdir hname hnode hlink (ih hthins)
    | drop hmoves => exact absurd trivial hmoves
  | follow hdir hname hnode _ ih =>
    cases hthins with
    | keep _ hthins => exact .follow hdir hname hnode (ih ((Thins.refl _).append hthins))
    | drop hmoves => exact absurd trivial hmoves

/-- A way that ends in a directory is continued by a way from there that needs no links. -/
theorem append {c : Address} {t : Time} {ss ts : List Step}
    (h : Leads d n a ss b (.directory t)) (h' : ∀ m, Leads d m b ts c x) :
    Leads d n a (ss ++ ts) c x := by
  generalize hy : Node.directory t = y at h
  induction h with
  | here => exact h' _
  | stay hdir hs _ ih => exact .stay hdir hs (ih h' hy)
  | up hdir _ ih => exact .up hdir (ih h' hy)
  | enter hdir hname hnode hlink _ ih => exact .enter hdir hname hnode hlink (ih h' hy)
  | follow hdir hname hnode _ ih =>
    have hway := ih h' hy
    rw [List.append_assoc] at hway
    exact .follow hdir hname hnode hway

/-- A way leads to one node only. -/
theorem unique {ss : List Step} {b' : Address} {x' : Node} (h : Leads d n a ss b x)
    (h' : Leads d n a ss b' x') : b = b' ∧ x = x' := by
  have heq := h.walk_eq.symm.trans h'.walk_eq
  cases heq
  exact ⟨rfl, rfl⟩

/-- A way ends at what stands there. -/
theorem node?_eq {ss : List Step} (h : Leads d n a ss b x) : d.node? b = some x := by
  induction h with
  | here hnode => exact hnode
  | stay _ _ _ ih | up _ _ ih | enter _ _ _ _ _ ih | follow _ _ _ _ ih => exact ih

end Leads

/-! ## Steps along paths -/

theorem map_text_partOfPiece? (piece : String) :
    (Path.partOfPiece? piece).map Path.Part.text =
      Option.guard (fun piece => decide (Step.ofPiece piece).Moves) piece := by
  unfold Path.partOfPiece? Step.ofPiece
  by_cases hempty : piece = ""
  · simp [hempty, Step.Moves, Option.guard]
  by_cases hdot : piece = "."
  · simp [hdot, Step.Moves, Option.guard]
  by_cases hup : piece = ".."
  · simp [hup, Step.Moves, Option.guard, Path.Part.text]
  · simp [hempty, hdot, hup, Step.Moves, Option.guard, Path.Part.text]

/-- The steps along a path that move are those for what it names. -/
theorem moves_stepsOf (p : Path) :
    (stepsOf p).filter (fun s => s.Moves) = (p.inner.map Path.Part.text).map Step.ofPiece := by
  rw [stepsOf, Path.inner, List.filter_map, List.map_filterMap, ← List.filterMap_eq_filter]
  simp only [map_text_partOfPiece?]
  rfl

/-- A path that is continued keeps its steps, but for a slash at its end. -/
theorem thins_join {p q : Path} (hp : p.text ≠ "") (hq : q.isAbsolute = false) :
    Thins (stepsOf p ++ stepsOf q) (stepsOf (p / q)) := by
  rcases Path.join_cases hp hq with ⟨a, rfl, hjoin⟩ | ⟨-, hjoin⟩
  · rw [hjoin]
    simp only [stepsOf, Path.pieces_slash, Path.pieces_empty, List.map_append, List.map_singleton]
    have hslash : Thins [Step.ofPiece ""] [] := .drop (by decide) .nil
    exact (by simpa using (Thins.refl _).append hslash : Thins _ _).append (.refl _)
  · rw [hjoin]
    simp only [stepsOf, Path.pieces_slash, List.map_append]
    exact .refl _

theorem thins_pathBelow {root : Path} {ts : List String} (hroot : root.text ≠ "")
    (hts : ∀ t ∈ ts, '/' ∉ t.toList) :
    Thins (stepsOf root ++ ts.map Step.ofPiece) (stepsOf (pathBelow root ts)) := by
  induction ts generalizing root with
  | nil => simpa [pathBelow] using Thins.refl _
  | cons t ts ih =>
    obtain ⟨ht, hts⟩ := List.forall_mem_cons.1 hts
    have hrelative := Path.isAbsolute_of_not_mem ht
    have hstep : stepsOf ⟨t⟩ = [Step.ofPiece t] := by rw [stepsOf, Path.pieces_of_not_mem ht]; rfl
    have hjoin := (thins_join hroot hrelative).append (.refl (ts.map Step.ofPiece))
    rw [hstep, List.append_assoc] at hjoin
    exact hjoin.trans (ih (Path.join_text_ne_empty hroot hrelative) hts)

/-! ## What paths lead to -/

/-- The texts that the system follows as paths. -/
structure Follows (p : Path) : Prop where
  endless : '\x00' ∉ p.text.toList
  nonempty : p.text ≠ ""
  short : p.text.utf8ByteSize < pathLimit

theorem stat_eq_ok_iff {p : Path} :
    d.stat p = .ok (a, x) ↔
      Follows p ∧ Leads d linkLimit (origin d.current p) (stepsOf p) a x := by
  rw [← walk_eq_iff]
  unfold stat find
  by_cases hend : '\x00' ∈ p.text.toList
  · simp only [List.contains_iff_mem, hend, if_true]
    exact iff_of_false nofun fun h => h.1.endless hend
  by_cases hempty : p.text = ""
  · simp only [hempty, if_true]
    exact iff_of_false nofun fun h => h.1.nonempty hempty
  by_cases hlong : p.text.utf8ByteSize ≥ pathLimit
  · simp only [List.contains_iff_mem, hend, hempty, hlong, if_true, if_false]
    exact iff_of_false nofun fun h => Nat.not_lt.2 hlong h.1.short
  have hfollows : Follows p := ⟨hend, hempty, Nat.lt_of_not_le hlong⟩
  simp only [List.contains_iff_mem, hend, hempty, hlong, if_false, hfollows, true_and]
  split <;> simp_all

/-- Two spellings of a path that lead anywhere lead to the same. -/
theorem stat_eq_of_parts_eq {p q : Path} {b : Address} {y : Node} (hparts : p.parts = q.parts)
    (hp : d.stat p = .ok (a, x)) (hq : d.stat q = .ok (b, y)) : a = b ∧ x = y := by
  obtain ⟨habsolute, hinner⟩ := Path.eq_iff_of_parts_eq hparts
  have hwayp := (stat_eq_ok_iff.1 hp).2.thins (.filter_moves _)
  have hwayq := (stat_eq_ok_iff.1 hq).2.thins (.filter_moves _)
  rw [moves_stepsOf, hinner, ← moves_stepsOf, origin, habsolute] at hwayp
  exact hwayp.unique hwayq

end SpecCoverage.Disk
