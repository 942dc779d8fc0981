-- SUMMARY: Replacement in texts: in a text that is put together, and when it changes nothing.
import SpecCoverage.Proofs.Cutting

/-!
# Replacement

Replacement goes through a text once, from left to right. Where no occurrence reaches from one part
of a text into the next, the parts can be treated on their own. A text stays as it is only if there
is nothing to replace in it, or if the new piece is the old one.
-/
namespace SpecCoverage.Text

variable {old new s t : List Char}

theorem replaceAfter_eq (old new written : List Char) (k : Nat) (s : List Char) :
    replaceAfter old new written k s =
      written.reverse ++ replaceAfter old new [] 0 (s.drop k) := by
  induction s generalizing written k with
  | nil => simp [replaceAfter]
  | cons c s ih =>
    cases k with
    | succ k => rw [replaceAfter, ih, List.drop_succ_cons]
    | zero =>
      rw [List.drop_zero, replaceAfter, replaceAfter]
      split
      · rw [ih, ih (new.reverse ++ [])]
        simp
      · rw [ih, ih [c]]
        simp

@[simp] theorem replace_nil (old new : List Char) : replace old new [] = [] := by
  rw [replace, replaceAfter]
  split <;> rfl

theorem replace_cons {c : Char} (h : ¬ old <+: c :: s) :
    replace old new (c :: s) = c :: replace old new s := by
  have hold : old.isEmpty = false := by
    cases old with
    | nil => exact absurd (List.nil_prefix) h
    | cons => rfl
  have hlead : startsWith old (c :: s) ≠ true := startsWith_iff.not.2 h
  simp only [replace, hold, replaceAfter, if_neg hlead, Bool.false_eq_true, if_false]
  rw [replaceAfter_eq]
  rfl

theorem replace_append_self (hold : old ≠ []) (s : List Char) :
    replace old new (old ++ s) = new ++ replace old new s := by
  obtain ⟨c, p, rfl⟩ := List.exists_cons_of_ne_nil hold
  have hlead : startsWith (c :: p) (c :: (p ++ s)) = true :=
    startsWith_iff.2 (List.prefix_append (c :: p) s)
  simp only [replace, List.isEmpty_cons, List.cons_append, replaceAfter, if_pos hlead,
    Bool.false_eq_true, if_false]
  rw [replaceAfter_eq]
  simp

/-- Read from left to right, a text ends, starts with the old piece, or starts with a character that
stays. -/
@[elab_as_elim]
theorem replaceInduction {motive : List Char → Prop} (hold : old ≠ []) (nil : motive [])
    (lead : ∀ s, motive s → motive (old ++ s))
    (skip : ∀ c s, ¬ old <+: c :: s → motive s → motive (c :: s)) (s : List Char) : motive s := by
  induction hlength : s.length using Nat.strongRecOn generalizing s with
  | ind n ih =>
    subst hlength
    cases s with
    | nil => exact nil
    | cons c s =>
      by_cases hlead : old <+: c :: s
      · obtain ⟨r, hr⟩ := hlead
        have hshort : r.length < (c :: s).length := by
          rw [← hr, List.length_append]
          exact Nat.lt_add_of_pos_left (List.length_pos_iff.2 hold)
        exact hr ▸ lead r (ih _ hshort r rfl)
      · exact skip c s hlead (ih _ (Nat.lt_succ_self s.length) s rfl)

/-- Text in which no occurrence starts is passed over. -/
theorem replace_append_of_forall_not (h : ∀ u, u <:+ s → u ≠ [] → ¬ old <+: u ++ t) :
    replace old new (s ++ t) = s ++ replace old new t := by
  induction s with
  | nil => rfl
  | cons c s ih =>
    have hlead : ¬ old <+: c :: (s ++ t) := h (c :: s) List.suffix_rfl (List.cons_ne_nil c s)
    have hs := ih fun u hu => h u (hu.trans (List.suffix_cons c s))
    rw [List.cons_append, replace_cons hlead, hs, List.cons_append]

/-- Parts of a text are treated on their own if no occurrence that starts in the first of them ends
in the second. -/
theorem replace_append (hold : old ≠ [])
    (h : ∀ u, u <:+ s → u ≠ [] → old <+: u ++ t → old <+: u) :
    replace old new (s ++ t) = replace old new s ++ replace old new t := by
  induction s using replaceInduction hold with
  | nil => rw [replace_nil, List.nil_append, List.nil_append]
  | lead s ih =>
    have hs := ih fun u hu => h u (hu.trans (List.suffix_append old s))
    rw [List.append_assoc, replace_append_self hold, replace_append_self hold, hs,
      List.append_assoc]
  | skip c s hlead ih =>
    have hs := ih fun u hu => h u (hu.trans (List.suffix_cons c s))
    have hlead' : ¬ old <+: c :: (s ++ t) :=
      fun hpre => hlead (h (c :: s) List.suffix_rfl (List.cons_ne_nil c s) hpre)
    rw [List.cons_append, replace_cons hlead', replace_cons hlead, hs, List.cons_append]

/-- An occurrence does not reach over a character that it does not have. -/
theorem prefix_of_prefix_append_cons {c : Char} (hc : c ∉ old) (h : old <+: s ++ c :: t) :
    old <+: s := by
  obtain hold | ⟨r, rfl⟩ := List.prefix_or_prefix_of_prefix h (List.prefix_append s (c :: t))
  · exact hold
  · have hr : r <+: c :: t := (List.prefix_append_right_inj s).1 h
    cases r with
    | nil => rw [List.append_nil]
    | cons d r =>
      obtain rfl := (List.cons_prefix_cons.1 hr).1
      exact absurd (List.mem_append_right s (List.mem_cons_self ..)) hc

-- ---------------------------------------------------------------------------
-- Texts that stay as they are
-- ---------------------------------------------------------------------------

theorem replace_of_not_infix (h : ¬ old <:+: s) : replace old new s = s := by
  induction s with
  | nil => exact replace_nil old new
  | cons c s ih =>
    obtain ⟨hlead, hrest⟩ := not_or.1 (List.infix_cons_iff.not.1 h)
    rw [replace_cons hlead, ih hrest]

theorem replace_self (hold : old ≠ []) (s : List Char) : replace old old s = s := by
  induction s using replaceInduction hold with
  | nil => exact replace_nil old old
  | lead s ih => rw [replace_append_self hold, ih]
  | skip c s hlead ih => rw [replace_cons hlead, ih]

/-- Every replacement changes the length by the same amount. -/
theorem exists_length_replace (hold : old ≠ []) (new s : List Char) :
    ∃ n, (replace old new s).length + n * old.length = s.length + n * new.length := by
  induction s using replaceInduction hold with
  | nil => exact ⟨0, by simp⟩
  | lead s ih =>
    obtain ⟨n, hn⟩ := ih
    refine ⟨n + 1, ?_⟩
    rw [replace_append_self hold, List.length_append, List.length_append, Nat.succ_mul,
      Nat.succ_mul]
    omega
  | skip c s hlead ih =>
    obtain ⟨n, hn⟩ := ih
    refine ⟨n, ?_⟩
    rw [replace_cons hlead, List.length_cons, List.length_cons]
    omega

/-- A replacement that leaves a text as it is finds nothing, or puts the old piece back. -/
theorem replace_eq_self_iff (hold : old ≠ []) :
    replace old new s = s ↔ ¬ old <:+: s ∨ new = old := by
  constructor
  · intro h
    induction s using replaceInduction hold with
    | nil => exact .inl fun hin => hold (List.infix_nil.1 hin)
    | lead s ih =>
      rw [replace_append_self hold] at h
      -- A new piece of another length would change the length of the text.
      obtain ⟨n, hn⟩ := exists_length_replace hold new s
      have hsum := congrArg List.length h
      rw [List.length_append, List.length_append] at hsum
      have hmul : (n + 1) * new.length = (n + 1) * old.length := by
        rw [Nat.succ_mul, Nat.succ_mul]
        omega
      exact .inr (List.append_inj_left h (Nat.eq_of_mul_eq_mul_left n.succ_pos hmul))
    | skip c s hlead ih =>
      rw [replace_cons hlead] at h
      refine (ih (List.cons.inj h).2).imp_left fun hrest hin => ?_
      exact (List.infix_cons_iff.1 hin).elim hlead hrest
  · rintro (h | rfl)
    · exact replace_of_not_infix h
    · exact replace_self hold s

end SpecCoverage.Text
