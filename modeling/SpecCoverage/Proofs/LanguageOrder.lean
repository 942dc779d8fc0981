-- SUMMARY: The order of languages under a policy: which languages stand in it, each once, and which before which.
import Mathlib.Data.List.Nodup
import SpecCoverage.Language

/-!
# The order of languages

`LanguagePolicy.order` puts the pinned languages first and the others behind them by key.
`Precedes` is this rule for two languages alone; an ordered list has each of its languages once and
follows the rule throughout. `Arranged` says what such a list is from the names as they are pinned,
repetitions included, and is true of one list only.
-/
namespace SpecCoverage.LanguagePolicy

variable {p : LanguagePolicy} {ls ls' : List Language}

/-- Does a language stand before another one? Pinned languages stand as they are pinned and before
all others, which stand by key. -/
def Precedes (p : LanguagePolicy) (a b : Language) : Prop :=
  if a ∈ p.pinned then b ∈ p.pinned → p.pinned.idxOf a < p.pinned.idxOf b
  else b ∉ p.pinned ∧ compare a b = .lt

theorem mem_order {l : Language} : l ∈ p.order ls ↔ l ∈ ls := by
  simp only [order, List.mem_append, List.mem_filter, decide_eq_true_eq, ← SortedSet.mem_def,
    SortedSet.mem_ofList]
  constructor
  · rintro (⟨-, h⟩ | ⟨h, -⟩) <;> exact h
  · intro h
    by_cases hp : l ∈ p.pinned
    · exact .inl ⟨hp, h⟩
    · exact .inr ⟨h, hp⟩

/-- In a list without repetitions an element stands before another where its index is smaller. -/
theorem pairwise_idxOf_lt {α : Type} [DecidableEq α] {xs : List α} (h : xs.Nodup) :
    xs.Pairwise fun a b => xs.idxOf a < xs.idxOf b := by
  refine List.pairwise_iff_getElem.2 fun i j hi hj hij => ?_
  rwa [h.idxOf_getElem i hi, h.idxOf_getElem j hj]

theorem order_pairwise_precedes : (p.order ls).Pairwise p.Precedes := by
  -- Pinned languages among themselves, the others among themselves, a pinned one and another.
  refine List.pairwise_append.2 ⟨?_, ?_, ?_⟩
  · have hidx := (pairwise_idxOf_lt p.pinned_nodup).filter (· ∈ SortedSet.ofList ls)
    refine hidx.imp_of_mem fun {a b} ha _ hab => ?_
    rw [Precedes, if_pos (List.mem_filter.1 ha).1]
    exact fun _ => hab
  · have hkeys := (SortedSet.ofList ls).sorted.filter (· ∉ p.pinned)
    refine hkeys.imp_of_mem fun {a b} ha hb hab => ?_
    have hpa : a ∉ p.pinned := by simpa using (List.mem_filter.1 ha).2
    have hpb : b ∉ p.pinned := by simpa using (List.mem_filter.1 hb).2
    rw [Precedes, if_neg hpa]
    exact ⟨hpb, hab⟩
  · intro a ha b hb
    have hpb : b ∉ p.pinned := by simpa using (List.mem_filter.1 hb).2
    rw [Precedes, if_pos (List.mem_filter.1 ha).1]
    exact fun h => absurd h hpb

theorem not_precedes_self (a : Language) : ¬ p.Precedes a a := by
  unfold Precedes
  split
  · rename_i h
    exact fun hlt => absurd (hlt h) (Nat.lt_irrefl _)
  · rintro ⟨-, hlt⟩
    simp at hlt

/-- A list that follows the rule has no language twice. -/
theorem nodup_of_pairwise_precedes {xs : List Language} (h : xs.Pairwise p.Precedes) :
    xs.Nodup := by
  refine h.imp fun {a b} hab => ?_
  rintro rfl
  exact not_precedes_self a hab

theorem order_nodup : (p.order ls).Nodup :=
  nodup_of_pairwise_precedes order_pairwise_precedes

theorem Precedes.asymm {a b : Language} (h : p.Precedes a b) : ¬ p.Precedes b a := by
  intro h'
  unfold Precedes at h h'
  by_cases ha : a ∈ p.pinned
  · rw [if_pos ha] at h
    by_cases hb : b ∈ p.pinned
    · rw [if_pos hb] at h'
      exact absurd (h hb) (Nat.lt_asymm (h' ha))
    · rw [if_neg hb] at h'
      exact h'.1 ha
  · rw [if_neg ha] at h
    rw [if_neg h.1] at h'
    exact absurd (Std.TransCmp.lt_trans h.2 h'.2) (by simp)

/-- Of the lists of some languages one follows the rule. -/
theorem eq_of_pairwise_precedes {xs ys : List Language} (hxs : xs.Pairwise p.Precedes)
    (hys : ys.Pairwise p.Precedes) (hmem : ∀ l, l ∈ xs ↔ l ∈ ys) : xs = ys := by
  have hperm : xs.Perm ys := (List.perm_ext_iff_of_nodup (nodup_of_pairwise_precedes hxs)
    (nodup_of_pairwise_precedes hys)).2 hmem
  exact hperm.eq_of_pairwise (fun a b _ _ hab hba => absurd hba hab.asymm) hxs hys

/-- More languages leave those that are there in their order. -/
theorem order_filter_mem (hmore : ls ⊆ ls') :
    (p.order ls').filter (· ∈ p.order ls) = p.order ls := by
  refine eq_of_pairwise_precedes (order_pairwise_precedes.filter _) order_pairwise_precedes
    fun l => ?_
  rw [List.mem_filter, decide_eq_true_iff, mem_order, mem_order]
  exact ⟨And.right, fun hl => ⟨hmore hl, hl⟩⟩

-- ---------------------------------------------------------------------------
-- Pinned names
-- ---------------------------------------------------------------------------

theorem mem_firsts {α : Type} [DecidableEq α] {x : α} {xs : List α} : x ∈ firsts xs ↔ x ∈ xs := by
  induction xs with
  | nil => rfl
  | cons y xs ih =>
    simp only [firsts, List.mem_cons, List.mem_filter, ih, decide_eq_true_eq]
    by_cases h : x = y <;> simp [h]

/-- What is left stands in the order of the first places. -/
theorem firsts_pairwise_idxOf_lt {α : Type} [DecidableEq α] (xs : List α) :
    (firsts xs).Pairwise fun a b => xs.idxOf a < xs.idxOf b := by
  induction xs with
  | nil => exact .nil
  | cons x xs ih =>
    have hne {y : α} (hy : y ∈ (firsts xs).filter (· ≠ x)) : x ≠ y :=
      Ne.symm (of_decide_eq_true (List.mem_filter.1 hy).2)
    refine List.pairwise_cons.2 ⟨fun y hy => ?_, ?_⟩
    · rw [List.idxOf_cons_self, List.idxOf_cons_ne _ (hne hy)]
      exact Nat.succ_pos _
    · refine (ih.filter _).imp_of_mem fun {a b} ha hb hab => ?_
      rw [List.idxOf_cons_ne _ (hne ha), List.idxOf_cons_ne _ (hne hb)]
      exact Nat.succ_lt_succ hab

theorem idxOf_firsts_lt {α : Type} [DecidableEq α] {xs : List α} {a b : α} (ha : a ∈ xs)
    (hb : b ∈ xs) (h : xs.idxOf a < xs.idxOf b) : (firsts xs).idxOf a < (firsts xs).idxOf b := by
  have hpairs := List.pairwise_iff_getElem.1 (firsts_pairwise_idxOf_lt xs)
  have hb' : (firsts xs).idxOf b < (firsts xs).length := List.idxOf_lt_length_iff.2 (mem_firsts.2 hb)
  have ha' : (firsts xs).idxOf a < (firsts xs).length := List.idxOf_lt_length_iff.2 (mem_firsts.2 ha)
  -- Otherwise `a` would be `b`, or stand behind it in both lists.
  refine Nat.lt_of_not_le fun hle => ?_
  obtain hlt | heq := Nat.lt_or_eq_of_le hle
  · have hba := hpairs _ _ hb' ha' hlt
    rw [List.getElem_idxOf, List.getElem_idxOf] at hba
    exact Nat.lt_asymm h hba
  · have hab : a = b := (List.idxOf_inj (mem_firsts.2 ha)).1 heq.symm
    exact absurd (hab ▸ h) (Nat.lt_irrefl _)

theorem compare_eq_lt_iff_key_lt {a b : Language} : compare a b = .lt ↔ a.key < b.key :=
  compareOfLessAndEq_eq_lt

/-- Languages in order: each of them once, first the pinned ones in the order of their first places
among the pinned, then all others with increasing keys. -/
structure Arranged (pinned ls ordered : List Language) : Prop where
  nodup : ordered.Nodup
  mem_iff : ∀ l, l ∈ ordered ↔ l ∈ ls
  divided : ∃ front back, ordered = front ++ back ∧
    (∀ l ∈ front, l ∈ pinned) ∧ (∀ l ∈ back, l ∉ pinned) ∧
    front.Pairwise (fun a b => pinned.idxOf a < pinned.idxOf b) ∧
    back.Pairwise fun a b => a.key < b.key

variable {pinned : List Language}

theorem arranged_order (hp : p.pinned = firsts pinned) : Arranged pinned ls (p.order ls) where
  nodup := order_nodup
  mem_iff _ := mem_order
  divided := by
    have hmem {l : Language} : l ∈ p.pinned ↔ l ∈ pinned := hp ▸ mem_firsts
    have hfirsts : p.pinned.Pairwise fun a b => pinned.idxOf a < pinned.idxOf b :=
      hp ▸ firsts_pairwise_idxOf_lt pinned
    refine ⟨p.pinned.filter (· ∈ SortedSet.ofList ls),
      (SortedSet.ofList ls).toList.filter (· ∉ p.pinned), rfl, ?_, ?_, ?_, ?_⟩
    · exact fun l hl => hmem.1 (List.mem_filter.1 hl).1
    · exact fun l hl => hmem.not.1 (of_decide_eq_true (List.mem_filter.1 hl).2)
    · exact hfirsts.filter _
    · exact ((SortedSet.ofList ls).sorted.filter _).imp compare_eq_lt_iff_key_lt.1

theorem Arranged.pairwise_precedes {ordered : List Language} (hp : p.pinned = firsts pinned)
    (h : Arranged pinned ls ordered) : ordered.Pairwise p.Precedes := by
  have hmem {l : Language} : l ∈ p.pinned ↔ l ∈ pinned := hp ▸ mem_firsts
  obtain ⟨front, back, rfl, hfront, hback, hplaces, hkeys⟩ := h.divided
  refine List.pairwise_append.2 ⟨?_, ?_, ?_⟩
  · refine hplaces.imp_of_mem fun {a b} ha hb hab => ?_
    rw [Precedes, if_pos (hmem.2 (hfront a ha)), hp]
    exact fun _ => idxOf_firsts_lt (hfront a ha) (hfront b hb) hab
  · refine hkeys.imp_of_mem fun {a b} ha hb hab => ?_
    rw [Precedes, if_neg (hmem.not.2 (hback a ha))]
    exact ⟨hmem.not.2 (hback b hb), compare_eq_lt_iff_key_lt.2 hab⟩
  · intro a ha b hb
    rw [Precedes, if_pos (hmem.2 (hfront a ha))]
    exact fun hpb => absurd (hmem.1 hpb) (hback b hb)

/-- There is one arrangement of the languages. -/
theorem Arranged.eq_order {ordered : List Language} (hp : p.pinned = firsts pinned)
    (h : Arranged pinned ls ordered) : ordered = p.order ls :=
  eq_of_pairwise_precedes (h.pairwise_precedes hp) order_pairwise_precedes fun l => by
    rw [h.mem_iff, mem_order]

theorem order_congr (h : ∀ l, l ∈ ls' ↔ l ∈ ls) : p.order ls' = p.order ls :=
  eq_of_pairwise_precedes order_pairwise_precedes order_pairwise_precedes fun l => by
    rw [mem_order, mem_order, h l]

/-- A policy puts languages into the one arrangement that its pinned names ask for. It does not
matter in which order and how often they are given, and what is in order stays as it is. -/
theorem order_eq_iff_arranged (aliases : List (String × String)) (names : List String)
    (ls : List Language) :
    (∀ ordered, (ofNames aliases names).order ls = ordered ↔
        Arranged (names.map .ofName) ls ordered) ∧
      (∀ ls', (∀ l, l ∈ ls' ↔ l ∈ ls) →
        (ofNames aliases names).order ls' = (ofNames aliases names).order ls) ∧
      (ofNames aliases names).order ((ofNames aliases names).order ls) =
        (ofNames aliases names).order ls := by
  refine ⟨fun ordered => ⟨?_, fun h => (h.eq_order rfl).symm⟩, fun ls' h => order_congr h, ?_⟩
  · rintro rfl
    exact arranged_order rfl
  · exact order_congr fun l => mem_order

/-- Two pinned languages, one of them by two spellings. -/
def pinnedNames : List String := ["core", " Go", "CORE"]

/-- Languages of which one is given twice. -/
def givenTwice : List Language := [⟨"python"⟩, ⟨"go"⟩, ⟨"core"⟩, ⟨"go"⟩]

def givenOnce : List Language := [⟨"go"⟩, ⟨"core"⟩, ⟨"python"⟩]

theorem order_eq_iff_arranged_givenTwice :
    (∀ l, l ∈ givenTwice ↔ l ∈ givenOnce) ∧
      (ofNames [] pinnedNames).order givenTwice = (ofNames [] pinnedNames).order givenOnce ∧
      Arranged (pinnedNames.map .ofName) givenOnce [⟨"core"⟩, ⟨"go"⟩, ⟨"python"⟩] := by
  have hmem (l : Language) : l ∈ givenTwice ↔ l ∈ givenOnce := by
    simp only [givenTwice, givenOnce, List.mem_cons, List.not_mem_nil, or_false]
    grind
  have horder : (ofNames [] pinnedNames).order givenOnce = [⟨"core"⟩, ⟨"go"⟩, ⟨"python"⟩] := by
    decide +kernel
  have h := order_eq_iff_arranged [] pinnedNames givenOnce
  exact ⟨hmem, h.2.1 givenTwice hmem, (h.1 _).1 horder⟩

end SpecCoverage.LanguagePolicy
