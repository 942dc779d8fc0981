-- SUMMARY: The owners of single-language features: their order on a page, and the rows of each.
import Mathlib.Data.List.Flatten
import Mathlib.Data.List.Perm.Basic
import SpecCoverage.Proofs.PageRows

/-!
# Owners

A page groups the features that are not shared by the language they belong to. Owners on the axis
come first, in its order. The rows of all owners are the rows that are not shared, each once.
-/
namespace SpecCoverage

/-! ## Sorting by keys -/

/-- A list put together from the parts for different keys is the list itself, but for its order. -/
theorem flatMap_filter_perm {α κ : Type} [DecidableEq κ] {key : α → κ} {keys : List κ}
    (hkeys : keys.Nodup) {xs : List α} (hxs : ∀ x ∈ xs, key x ∈ keys) :
    (keys.flatMap fun k => xs.filter fun x => key x = k).Perm xs := by
  induction keys generalizing xs with
  | nil =>
    cases xs with
    | nil => exact .nil
    | cons x xs => cases hxs x List.mem_cons_self
  | cons k keys ih =>
    obtain ⟨hk, hkeys⟩ := List.nodup_cons.1 hkeys
    let others := xs.filter fun x => !decide (key x = k)
    have hothers : (keys.flatMap fun l => others.filter fun x => key x = l).Perm others := by
      refine ih hkeys fun x hx => ?_
      obtain ⟨hx, hne⟩ := List.mem_filter.1 hx
      exact (List.mem_cons.1 (hxs x hx)).resolve_left (by simpa using hne)
    have hparts : (keys.flatMap fun l => xs.filter fun x => key x = l) =
        keys.flatMap fun l => others.filter fun x => key x = l := by
      refine List.flatMap_congr fun l hl => ?_
      rw [List.filter_filter]
      refine List.filter_congr fun x _ => ?_
      have hne : l ≠ k := fun h => hk (h ▸ hl)
      by_cases h : key x = l <;> simp [h, hne]
    rw [List.flatMap_cons, hparts]
    exact (hothers.append_left _).trans (List.filter_append_perm _ xs)

/-! ## Owners -/

namespace Matrix

variable {m : Matrix}

/-- The rows of an owner in the order of their paths. -/
def ownedBy (m : Matrix) (l : Language) : List Row :=
  (m.rowsOwnedBy l).mergeSort fun a b => (compare a.feature.path b.feature.path).isLE

theorem owner?_of_mem_ownedBy {l : Language} {r : Row} (hr : r ∈ m.ownedBy l) :
    r.feature.scope.owner? = some l :=
  of_decide_eq_true (List.mem_filter.1 ((List.mergeSort_perm ..).mem_iff.1 hr)).2

/-- The owners in the order of a page, each once: those on the axis in its order, then the others by
key. -/
structure OrdersOwners (m : Matrix) (owners : List Language) : Prop where
  nodup : owners.Nodup
  mem_iff : ∀ l, l ∈ owners ↔ m.rowsOwnedBy l ≠ []
  axis_first : ∃ others, owners = m.languages.filter (m.rowsOwnedBy · ≠ []) ++ others ∧
    (∀ l ∈ others, l ∉ m.languages) ∧ others.Pairwise fun a b => compare a b = .lt

theorem getD_ownedRows (m : Matrix) (l : Language) :
    (m.ownedRows.get? l).getD [] = m.ownedBy l := by
  rw [get?_ownedRows, ownedBy]
  split
  · rename_i hnil
    simp [hnil]
  · rfl

theorem contains_ownedRows (m : Matrix) (l : Language) :
    m.ownedRows.contains l = decide (m.rowsOwnedBy l ≠ []) := by
  rw [SortedMap.contains, get?_ownedRows]
  split <;> simp_all

theorem ordersOwners_ownersOf (haxis : m.languages.Nodup) :
    m.OrdersOwners (Page.ownersOf m.languages m.ownedRows) where
  nodup := Page.ownersOf_nodup haxis
  mem_iff := fun _ => Page.mem_ownersOf
  axis_first := by
    refine ⟨m.ownedRows.keys.filter (· ∉ m.languages), ?_, ?_, ?_⟩
    · simp only [Page.ownersOf, contains_ownedRows]
    · intro l hl
      simpa using (List.mem_filter.1 hl).2
    · exact m.ownedRows.keys_sorted.filter _

theorem rowsOwnedBy_eq (m : Matrix) (l : Language) :
    m.rowsOwnedBy l =
      (m.rows.filter (!·.isShared)).filter (·.feature.scope.owner? = some l) := by
  rw [rowsOwnedBy, List.filter_filter]
  refine List.filter_congr fun r _ => ?_
  cases hscope : r.feature.scope with
  | shared => simp [FeatureScope.owner?]
  | only l => simp [Row.isShared, hscope, FeatureScope.isShared]

/-- The rows of all owners are those that are not shared. -/
theorem flatMap_ownedBy_perm {owners : List Language} (h : m.OrdersOwners owners) :
    (owners.flatMap m.ownedBy).Perm (m.rows.filter (!·.isShared)) := by
  have hsorted : (owners.flatMap m.ownedBy).Perm (owners.flatMap m.rowsOwnedBy) :=
    List.Perm.flatMap_left _ fun l _ => List.mergeSort_perm (m.rowsOwnedBy l) _
  have hkeys : (owners.map some).Nodup := h.nodup.map fun _ _ => Option.some.inj
  have hcover : ∀ r ∈ m.rows.filter (!·.isShared), r.feature.scope.owner? ∈ owners.map some := by
    intro r hr
    obtain ⟨hr, hshared⟩ := List.mem_filter.1 hr
    cases hscope : r.feature.scope with
    | shared => simp [Row.isShared, hscope, FeatureScope.isShared] at hshared
    | only l =>
      have hmem : r ∈ m.rowsOwnedBy l :=
        List.mem_filter.2 ⟨hr, by simp [hscope, FeatureScope.owner?]⟩
      exact List.mem_map_of_mem ((h.mem_iff l).2 (List.ne_nil_of_mem hmem))
  have hparts := flatMap_filter_perm hkeys hcover
  rw [List.flatMap_map] at hparts
  simp only [← rowsOwnedBy_eq] at hparts
  exact hsorted.trans hparts

/-- Shared features and those of the owners are all features. -/
theorem sharedRows_append_owned_perm {owners : List Language} (h : m.OrdersOwners owners) :
    (m.sharedRows ++ owners.flatMap m.ownedBy).Perm m.rows :=
  ((flatMap_ownedBy_perm h).append_left _).trans (List.filter_append_perm _ _)

end Matrix

theorem Page.owned_ofMatrix {m : Matrix} {base? : Option String} :
    (View.ofMatrix base? m).owned = (ownersOf m.languages m.ownedRows).map fun l =>
      ⟨l.banner, (m.ownedBy l).length, (m.ownedBy l).map (.ofRow l)⟩ := by
  simp only [View.ofMatrix, ownedOf, Matrix.getD_ownedRows]

end SpecCoverage
