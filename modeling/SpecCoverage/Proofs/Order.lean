-- SUMMARY: What sorted maps and sets hold: looking up in maps made from lists, keys, and equality by look-up.
import Mathlib.Data.List.Nodup
import SpecCoverage.Order.SortedMap
import SpecCoverage.Order.SortedSet

/-!
# Sorted maps and sets by their contents

`get?` and membership determine a map and a set. The lemmas here say what maps made from lists give
back, which comes down to searches through the lists, and turn keys and entries into look-ups. An
order that tells elements apart leaves one sorted list of them.
-/
namespace SpecCoverage

/-! ## Searches -/

/-- A search that one element at most can answer finds it wherever it stands. -/
theorem find?_eq_of_perm {α : Type} {p : α → Bool} {xs ys : List α} (hperm : xs.Perm ys)
    (hunique : ∀ a ∈ xs, ∀ b ∈ xs, p a → p b → a = b) : xs.find? p = ys.find? p := by
  cases hx : xs.find? p with
  | none =>
    have hnone := List.find?_eq_none.1 hx
    exact (List.find?_eq_none.2 fun b hb => hnone b (hperm.mem_iff.2 hb)).symm
  | some a =>
    have ha : a ∈ xs := List.mem_of_find?_eq_some hx
    have hpa : p a := List.find?_some hx
    cases hy : ys.find? p with
    | none => exact absurd hpa (List.find?_eq_none.1 hy a (hperm.mem_iff.1 ha))
    | some b =>
      have hb : b ∈ xs := hperm.mem_iff.2 (List.mem_of_find?_eq_some hy)
      rw [hunique a ha b hb hpa (List.find?_some hy)]

/-! ## Sorting -/

section

variable {α : Type} (cmp : α → α → Ordering) [Std.TransCmp cmp]

theorem isLE_total (a b : α) : ((cmp a b).isLE || (cmp b a).isLE) = true := by
  have hswap : cmp b a = (cmp a b).swap := Std.OrientedCmp.eq_swap
  rw [hswap]
  cases cmp a b <;> rfl

theorem pairwise_mergeSort_isLE (xs : List α) :
    (xs.mergeSort fun a b => (cmp a b).isLE).Pairwise fun a b => (cmp a b).isLE := by
  apply List.pairwise_mergeSort
  · intro a b c hab hbc
    exact Std.TransCmp.isLE_trans hab hbc
  · exact isLE_total cmp

/-- Elements that an order tells apart have one sorted list. -/
theorem mergeSort_isLE_congr {xs ys : List α} (hperm : xs.Perm ys)
    (hapart : ∀ a ∈ xs, ∀ b ∈ xs, cmp a b = .eq → a = b) :
    xs.mergeSort (fun a b => (cmp a b).isLE) = ys.mergeSort fun a b => (cmp a b).isLE := by
  refine List.Perm.eq_of_pairwise ?_ (pairwise_mergeSort_isLE cmp xs)
    (pairwise_mergeSort_isLE cmp ys) ?_
  · intro a b ha hb hab hba
    have ha : a ∈ xs := List.mem_mergeSort.1 ha
    have hb : b ∈ xs := hperm.mem_iff.2 (List.mem_mergeSort.1 hb)
    exact hapart a ha b hb (Std.OrientedCmp.isLE_antisymm hab hba)
  · exact ((List.mergeSort_perm ..).trans hperm).trans (List.mergeSort_perm ..).symm

/-- An element goes before the first one that is not less, and the others stand as without it. -/
theorem mergeSort_isLE_cons (x : α) (xs : List α) :
    (x :: xs).mergeSort (fun a b => (cmp a b).isLE) =
      (xs.mergeSort fun a b => (cmp a b).isLE).filter (fun b => !(cmp x b).isLE) ++
        x :: (xs.mergeSort fun a b => (cmp a b).isLE).filter fun b => (cmp x b).isLE := by
  obtain ⟨before, after, hsorted, hrest, hbefore⟩ :=
    List.mergeSort_cons (fun a b c => Std.TransCmp.isLE_trans) (isLE_total cmp) x xs
  have hpairwise := pairwise_mergeSort_isLE cmp (x :: xs)
  rw [hsorted] at hpairwise
  have hafter : ∀ b ∈ after, (cmp x b).isLE :=
    (List.pairwise_cons.1 (List.pairwise_append.1 hpairwise).2.1).1
  have hnotBefore : before.filter (fun b => (cmp x b).isLE) = [] :=
    List.filter_eq_nil_iff.2 fun b hb => by simpa using hbefore b hb
  have hnotAfter : after.filter (fun b => !(cmp x b).isLE) = [] :=
    List.filter_eq_nil_iff.2 fun b hb => by rw [hafter b hb]; decide
  rw [hsorted, hrest, List.filter_append, List.filter_append, List.filter_eq_self.2 hbefore,
    List.filter_eq_self.2 hafter, hnotBefore, hnotAfter, List.append_nil, List.nil_append]

/-- A list with one more element is sorted like the list without it. -/
theorem exists_mergeSort_insert (xs : List α) (a : α) (ys : List α) :
    ∃ before after,
      (xs ++ a :: ys).mergeSort (fun a b => (cmp a b).isLE) = before ++ a :: after ∧
        (xs ++ ys).mergeSort (fun a b => (cmp a b).isLE) = before ++ after := by
  induction xs with
  | nil =>
    obtain ⟨before, after, hmore, hless, -⟩ :=
      List.mergeSort_cons (fun a b c => Std.TransCmp.isLE_trans) (isLE_total cmp) a ys
    exact ⟨before, after, hmore, hless⟩
  | cons x xs ih =>
    obtain ⟨before, after, hmore, hless⟩ := ih
    rw [List.cons_append, List.cons_append, mergeSort_isLE_cons, mergeSort_isLE_cons, hmore, hless]
    -- The others are divided at `x` as without `a`, which stands in one of the two parts.
    let less (zs : List α) := zs.filter fun b => !(cmp x b).isLE
    let more (zs : List α) := zs.filter fun b => (cmp x b).isLE
    by_cases hx : cmp x a = .gt
    · refine ⟨less before, less after ++ x :: (more before ++ more after), ?_, ?_⟩ <;>
        simp [less, more, hx]
    · refine ⟨less before ++ less after ++ x :: more before, more after, ?_, ?_⟩ <;>
        simp [less, more, List.filter_cons, hx]

end

namespace SortedMap

variable {κ α : Type} [Ord κ]

/-! ## Keys and entries -/

@[simp] theorem get?_empty (k : κ) : (∅ : SortedMap κ α).get? k = none := rfl

section

variable [Std.LawfulEqOrd κ]

theorem find?_eq_some_of_mem {es : List (κ × α)} {e : κ × α}
    (hs : es.Pairwise fun a b => compare a.1 b.1 = .lt) (he : e ∈ es) :
    find? e.1 es = some e.2 := by
  induction es with
  | nil => cases he
  | cons x xs ih =>
    obtain ⟨hx, hxs⟩ := List.pairwise_cons.1 hs
    rcases List.mem_cons.1 he with rfl | he
    · simp [find?]
    · have hne : compare e.1 x.1 ≠ .eq := by
        intro heq
        have hlt := hx e he
        rw [Std.LawfulEqCmp.eq_of_compare heq] at hlt
        simp at hlt
      simp only [find?, if_neg hne]
      exact ih hxs he

theorem mem_of_find?_eq_some {es : List (κ × α)} {k : κ} {v : α} (h : find? k es = some v) :
    (k, v) ∈ es := by
  induction es with
  | nil => cases h
  | cons x xs ih =>
    unfold find? at h
    split at h
    · rename_i heq
      have hk : k = x.1 := Std.LawfulEqCmp.eq_of_compare heq
      cases h
      simp [hk]
    · exact List.mem_cons_of_mem _ (ih h)

theorem get?_eq_some_iff {m : SortedMap κ α} {k : κ} {v : α} :
    m.get? k = some v ↔ (k, v) ∈ m.entries :=
  ⟨mem_of_find?_eq_some, fun h => find?_eq_some_of_mem m.sorted h⟩

theorem mem_keys_iff {m : SortedMap κ α} {k : κ} : k ∈ m.keys ↔ (m.get? k).isSome := by
  simp only [keys, List.mem_map, Option.isSome_iff_exists, get?_eq_some_iff]
  constructor
  · rintro ⟨e, he, rfl⟩
    exact ⟨e.2, he⟩
  · rintro ⟨v, hv⟩
    exact ⟨(k, v), hv, rfl⟩

theorem mem_values_iff {m : SortedMap κ α} {v : α} : v ∈ m.values ↔ ∃ k, m.get? k = some v := by
  simp only [values, List.mem_map, get?_eq_some_iff]
  constructor
  · rintro ⟨e, he, rfl⟩
    exact ⟨e.1, he⟩
  · rintro ⟨k, hv⟩
    exact ⟨(k, v), hv, rfl⟩

theorem get?_mapValues {β : Type} (m : SortedMap κ α) (f : κ → α → β) (k : κ) :
    (m.mapValues f).get? k = (m.get? k).map (f k) := by
  simp only [get?, mapValues]
  induction m.entries with
  | nil => rfl
  | cons e es ih =>
    rw [List.map_cons, find?, find?]
    split
    · rename_i heq
      rw [Std.LawfulEqCmp.eq_of_compare heq]
      rfl
    · exact ih

theorem keys_nodup (m : SortedMap κ α) : m.keys.Nodup := by
  refine m.keys_sorted.imp fun {a b} hab => ?_
  rintro rfl
  simp at hab

end

variable [Std.TransOrd κ] [Std.LawfulEqOrd κ]

/-- Maps that give the same values are equal. -/
theorem ext_get? {m n : SortedMap κ α} (h : ∀ k, m.get? k = n.get? k) : m = n := by
  have hnodup (m : SortedMap κ α) : m.entries.Nodup := List.Nodup.of_map _ m.keys_nodup
  refine ext (List.Perm.eq_of_pairwise ?_ m.sorted n.sorted ?_)
  · intro a b _ _ hab hba
    exact absurd (Std.TransCmp.lt_trans hab hba) (by simp)
  · refine (List.perm_ext_iff_of_nodup (hnodup m) (hnodup n)).2 fun e => ?_
    rw [← get?_eq_some_iff, ← get?_eq_some_iff, h]

/-! ## Maps made from lists -/

variable [DecidableEq κ]

/-- Of several values for a key the first one is found. -/
theorem get?_ofListFirst (es : List (κ × α)) (k : κ) :
    (ofListFirst es).get? k = (es.find? (·.1 = k)).map (·.2) := by
  induction es with
  | nil => rfl
  | cons e es ih =>
    have hstep : ofListFirst (e :: es) = (ofListFirst es).insert e.1 e.2 := rfl
    rw [hstep, get?_insert, ih]
    by_cases h : k = e.1
    · simp [h]
    · simp [h, Ne.symm h]

omit [Std.LawfulEqOrd κ] [DecidableEq κ] in
@[simp] theorem get?_ofList_nil (k : κ) : (ofList ([] : List (κ × α))).get? k = none := rfl

/-- A map whose list of entries grows at the front: the value stands unless there is a later one. -/
theorem get?_ofList_cons (e : κ × α) (es : List (κ × α)) (k : κ) :
    (ofList (e :: es)).get? k =
      if k = e.1 then some (((ofList es).get? k).getD e.2) else (ofList es).get? k := by
  have hstep : ofList (e :: es) = (ofList es).insertNew e.1 e.2 := rfl
  rw [hstep, get?_insertNew]
  by_cases h : k = e.1 <;> simp [h]

/-- Of several values for a key the last one is found. -/
theorem get?_ofList (es : List (κ × α)) (k : κ) :
    (ofList es).get? k = (es.reverse.find? (·.1 = k)).map (·.2) := by
  induction es with
  | nil => rfl
  | cons e es ih =>
    rw [get?_ofList_cons, ih, List.reverse_cons, List.find?_append]
    by_cases h : k = e.1
    · cases es.reverse.find? (·.1 = k) <;> simp [h]
    · simp [h, Ne.symm h]

/-- Every key of a map made from a list comes with a value that the list has for it. -/
theorem get?_ofList_isSome_iff {es : List (κ × α)} {k : κ} :
    ((ofList es).get? k).isSome ↔ k ∈ es.map (·.1) := by
  induction es with
  | nil => simp
  | cons e es ih =>
    rw [get?_ofList_cons]
    by_cases h : k = e.1
    · simp [h]
    · simp [h, ih]

theorem mem_of_get?_ofList {es : List (κ × α)} {k : κ} {v : α}
    (h : (ofList es).get? k = some v) : (k, v) ∈ es := by
  induction es with
  | nil => simp at h
  | cons e es ih =>
    rw [get?_ofList_cons] at h
    split at h
    · rename_i hk
      cases hrest : (ofList es).get? k with
      | none =>
        simp only [hrest, Option.getD_none, Option.some.injEq] at h
        simp [hk, ← h]
      | some w =>
        simp only [hrest, Option.getD_some, Option.some.injEq] at h
        exact List.mem_cons_of_mem _ (ih (h ▸ hrest))
    · exact List.mem_cons_of_mem _ (ih h)

/-- A value is found under its key when the list has no other value for it. -/
theorem get?_ofList_of_mem {es : List (κ × α)} {k : κ} {v : α} (hmem : (k, v) ∈ es)
    (hfun : ∀ w, (k, w) ∈ es → w = v) : (ofList es).get? k = some v := by
  have hsome : ((ofList es).get? k).isSome :=
    get?_ofList_isSome_iff.2 (List.mem_map.2 ⟨(k, v), hmem, rfl⟩)
  obtain ⟨w, hw⟩ := Option.isSome_iff_exists.1 hsome
  rw [hw, hfun w (mem_of_get?_ofList hw)]

/-- A function tabulated over a list of keys. -/
theorem get?_ofList_map (f : κ → α) (ks : List κ) (k : κ) :
    (ofList (ks.map fun k => (k, f k))).get? k = if k ∈ ks then some (f k) else none := by
  split
  · rename_i hk
    refine get?_ofList_of_mem (List.mem_map.2 ⟨k, hk, rfl⟩) ?_
    intro w hw
    simp only [List.mem_map, Prod.mk.injEq] at hw
    obtain ⟨_, _, rfl, rfl⟩ := hw
    rfl
  · rename_i hk
    rw [← Option.not_isSome_iff_eq_none, get?_ofList_isSome_iff]
    simpa using hk

/-- Lists that give related values to the same keys, one after the other. -/
theorem get?_ofList_rel {β : Type} {S : α → β → Prop} {es : List (κ × α)} {es' : List (κ × β)}
    (h : List.Forall₂ (fun e e' => e'.1 = e.1 ∧ S e.2 e'.2) es es') (k : κ) :
    Option.Rel S ((ofList es).get? k) ((ofList es').get? k) := by
  induction h with
  | nil => exact .none
  | @cons e e' es es' he _ ih =>
    obtain ⟨hkey, hvalue⟩ := he
    rw [get?_ofList_cons, get?_ofList_cons, hkey]
    split
    · generalize (ofList es).get? k = found, (ofList es').get? k = found' at ih
      cases ih with
      | some hfound => exact .some hfound
      | none => exact .some hvalue
    · exact ih

/-- Entries of other keys do not matter to a key. -/
theorem get?_ofList_filter {p : κ → Bool} {k : κ} (hk : p k = true) (es : List (κ × α)) :
    (ofList (es.filter fun e => p e.1)).get? k = (ofList es).get? k := by
  induction es with
  | nil => rfl
  | cons e es ih =>
    rw [List.filter_cons, get?_ofList_cons]
    by_cases he : k = e.1
    · rw [if_pos (he ▸ hk), get?_ofList_cons, ih]
    · rw [if_neg he]
      split
      · rw [get?_ofList_cons, if_neg he, ih]
      · exact ih

/-- A partial function tabulated over a list of keys. -/
theorem get?_ofList_filterMap (f : κ → Option α) (ks : List κ) (k : κ) :
    (ofList (ks.filterMap fun k => (f k).map (k, ·))).get? k = if k ∈ ks then f k else none := by
  induction ks with
  | nil => rfl
  | cons x ks ih =>
    by_cases hk : k = x
    · subst hk
      rw [if_pos List.mem_cons_self, List.filterMap_cons]
      cases hf : f k with
      | none => simp [ih, hf]
      | some v =>
        rw [Option.map_some, get?_ofList_cons, if_pos rfl, ih, hf]
        split <;> rfl
    · have hmem : k ∈ x :: ks ↔ k ∈ ks := by simp [hk]
      rw [List.filterMap_cons]
      cases hf : f x with
      | none => simp [ih, hk]
      | some v =>
        rw [Option.map_some, get?_ofList_cons, if_neg hk, ih]
        simp [hk]

theorem insert_insert (m : SortedMap κ α) (k : κ) (v w : α) :
    (m.insert k v).insert k w = m.insert k w := by
  refine ext_get? fun a => ?_
  rw [get?_insert, get?_insert, get?_insert]
  split <;> rfl

omit [DecidableEq κ] in
/-- Setting a key that is there leaves all other entries in their places. -/
theorem exists_entries_insert {m : SortedMap κ α} {k : κ} {v : α} (h : m.get? k = some v) (w : α) :
    ∃ before after, m.entries = before ++ (k, v) :: after ∧
      (m.insert k w).entries = before ++ (k, w) :: after := by
  obtain ⟨es, hs⟩ := m
  change find? k es = some v at h
  change ∃ before after, es = before ++ (k, v) :: after ∧
    alterEntries k (fun _ => w) es = before ++ (k, w) :: after
  induction es with
  | nil => cases h
  | cons e es ih =>
    obtain ⟨he, hes⟩ := List.pairwise_cons.1 hs
    rw [find?] at h
    cases hcmp : compare k e.1 with
    | lt =>
      -- a key in front of the first one is not there
      have hnone : find? k es = none :=
        find?_eq_none_of_lt fun x hx => Std.TransCmp.lt_trans hcmp (he x hx)
      rw [hcmp, if_neg (by simp), hnone] at h
      cases h
    | eq =>
      obtain rfl := Std.LawfulEqCmp.eq_of_compare hcmp
      rw [hcmp, if_pos rfl] at h
      cases h
      exact ⟨[], es, rfl, by simp [alterEntries]⟩
    | gt =>
      rw [hcmp, if_neg (by simp)] at h
      obtain ⟨before, after, hbefore, hafter⟩ := ih hes h
      refine ⟨e :: before, after, by rw [hbefore, List.cons_append], ?_⟩
      simp [alterEntries, hcmp, hafter]

/-- Inserting entry after entry, the later of two for one key stays. -/
theorem foldl_insert_eq_ofList (es : List (κ × α)) :
    es.foldl (fun m e => m.insert e.1 e.2) ∅ = ofList es := by
  -- For any map to start from: what the entries have for a key comes before what the map has.
  have hget (m : SortedMap κ α) (k : κ) :
      (es.foldl (fun m e => m.insert e.1 e.2) m).get? k = ((ofList es).get? k).or (m.get? k) := by
    induction es generalizing m with
    | nil => simp
    | cons e es ih =>
      rw [List.foldl_cons, ih, get?_ofList_cons, get?_insert]
      by_cases h : k = e.1
      · cases (ofList es).get? k <;> simp [h]
      · simp [h]
  refine ext_get? fun k => ?_
  rw [hget, get?_empty, Option.or_none]

/-! ## Grouping -/

omit [Std.LawfulEqOrd κ] [DecidableEq κ] in
theorem group_cons (e : κ × α) (es : List (κ × α)) :
    group (e :: es) = (group es).alter e.1 fun vs => e.2 :: vs.getD [] := rfl

/-- A group holds the values of its key, in the order of the list. -/
theorem get?_group (es : List (κ × α)) (k : κ) :
    (group es).get? k =
      if k ∈ es.map (·.1) then some ((es.filter (·.1 = k)).map (·.2)) else none := by
  induction es with
  | nil => rfl
  | cons e es ih =>
    rw [group_cons, get?_alter, List.map_cons]
    by_cases hk : k = e.1
    · subst hk
      rw [if_pos rfl, if_pos List.mem_cons_self, ih, List.filter_cons_of_pos (by simp),
        List.map_cons]
      split
      · rfl
      · rename_i hnone
        rw [List.filter_eq_nil_iff.2 fun x hx => by
          simpa using fun heq => hnone (List.mem_map.2 ⟨x, hx, heq⟩)]
        rfl
    · have hmem : k ∈ e.1 :: es.map (·.1) ↔ k ∈ es.map (·.1) := by simp [hk]
      rw [if_neg hk, ih, List.filter_cons_of_neg (by simpa using Ne.symm hk)]
      simp only [hmem]

/-- What stands in a group stood in the list, under the key of the group. -/
theorem mem_of_mem_group {es : List (κ × α)} {k : κ} {vs : List α} {v : α}
    (hvs : (k, vs) ∈ (group es).entries) (hv : v ∈ vs) : (k, v) ∈ es := by
  rw [← get?_eq_some_iff, get?_group] at hvs
  split at hvs
  · cases hvs
    simpa using hv
  · cases hvs

omit [Std.TransOrd κ] [Std.LawfulEqOrd κ] [DecidableEq κ] in
/-- A value that is put into the group of its key joins the values of all groups. -/
theorem perm_flatten_alterEntries (k : κ) (v : α) (es : List (κ × List α)) :
    ((alterEntries k (fun vs => v :: vs.getD []) es).map (·.2)).flatten.Perm
      (v :: (es.map (·.2)).flatten) := by
  induction es with
  | nil => exact .refl _
  | cons e es ih =>
    unfold alterEntries
    split
    · exact .refl _
    · exact .refl _
    · exact (ih.append_left e.2).trans List.perm_middle

omit [Std.LawfulEqOrd κ] [DecidableEq κ] in
/-- Every value of a list stands in one group, as often as in the list. -/
theorem perm_flatten_values_group (es : List (κ × α)) :
    (group es).values.flatten.Perm (es.map (·.2)) := by
  induction es with
  | nil => exact .refl _
  | cons e es ih => exact (perm_flatten_alterEntries e.1 e.2 (group es).entries).trans (ih.cons e.2)

/-- Groups of a list in the order of its keys follow each other as in the list. -/
theorem flatten_values_group {es : List (κ × α)}
    (h : es.Pairwise fun a b => (compare a.1 b.1).isLE) :
    (group es).values.flatten = es.map (·.2) := by
  induction es with
  | nil => rfl
  | cons e es ih =>
    obtain ⟨hle, hes⟩ := List.pairwise_cons.1 h
    rw [List.map_cons, ← ih hes, group_cons]
    cases hentries : (group es).entries with
    | nil => simp [values, alter, hentries, alterEntries]
    | cons x xs =>
      -- the first group has the least key, so the new value goes into it or in front of it
      have hx : (compare e.1 x.1).isLE := by
        have hkey : ((group es).get? x.1).isSome := by
          rw [(get?_eq_some_iff (v := x.2)).2 (hentries ▸ List.mem_cons_self)]
          rfl
        rw [get?_group, Option.isSome_ite] at hkey
        obtain ⟨y, hy, hyx⟩ := List.mem_map.1 hkey
        exact hyx ▸ hle y hy
      cases hcmp : compare e.1 x.1 with
      | lt => simp [values, alter, hentries, alterEntries, hcmp]
      | eq => simp [values, alter, hentries, alterEntries, hcmp]
      | gt => simp [hcmp] at hx

end SortedMap

namespace SortedSet

variable {α : Type} [Ord α] [Std.TransOrd α] [Std.LawfulEqOrd α]

theorem isEmpty_ofList (xs : List α) : (ofList xs).isEmpty = xs.isEmpty := by
  rw [isEmpty, Bool.eq_iff_iff, List.isEmpty_iff, List.isEmpty_iff]
  simp only [List.eq_nil_iff_forall_not_mem, ← mem_def, mem_ofList]

end SortedSet

end SpecCoverage
