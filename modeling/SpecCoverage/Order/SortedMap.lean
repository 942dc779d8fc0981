-- SUMMARY: Finite maps kept as lists in strictly increasing key order.

/-!
# Sorted maps

A map is the list of its entries in strictly increasing key order, so two maps with the same
entries are equal and the order of the entries is the order of the keys. `get?` is the view: each
operation says what it does to it.
-/
namespace SpecCoverage

/-- A finite map, its entries in strictly increasing key order. -/
structure SortedMap (κ α : Type) [Ord κ] where
  entries : List (κ × α)
  sorted : entries.Pairwise fun a b => compare a.1 b.1 = .lt

namespace SortedMap

variable {κ α β : Type} [Ord κ]

theorem ext {m n : SortedMap κ α} (h : m.entries = n.entries) : m = n := by
  cases m; cases n; simp_all

instance [DecidableEq κ] [DecidableEq α] : DecidableEq (SortedMap κ α) := fun m n =>
  if h : m.entries = n.entries then isTrue (ext h) else isFalse fun e => h (e ▸ rfl)

def empty : SortedMap κ α := ⟨[], .nil⟩

instance : EmptyCollection (SortedMap κ α) := ⟨empty⟩

instance : Inhabited (SortedMap κ α) := ⟨empty⟩

def keys (m : SortedMap κ α) : List κ := m.entries.map (·.1)

def values (m : SortedMap κ α) : List α := m.entries.map (·.2)

def isEmpty (m : SortedMap κ α) : Bool := m.entries.isEmpty

def size (m : SortedMap κ α) : Nat := m.entries.length

theorem keys_sorted (m : SortedMap κ α) : m.keys.Pairwise fun a b => compare a b = .lt :=
  List.pairwise_map.2 m.sorted

-- ---------------------------------------------------------------------------
-- Looking up
-- ---------------------------------------------------------------------------

/-- The value of the first entry whose key compares equal. -/
def find? (k : κ) : List (κ × α) → Option α
  | [] => none
  | e :: es => if compare k e.1 = .eq then some e.2 else find? k es

def get? (m : SortedMap κ α) (k : κ) : Option α := find? k m.entries

def contains (m : SortedMap κ α) (k : κ) : Bool := (m.get? k).isSome

-- ---------------------------------------------------------------------------
-- Changing the value of one key
-- ---------------------------------------------------------------------------

/-- Set the value of `k` to `f` of its present value, keeping the order. -/
def alterEntries (k : κ) (f : Option α → α) : List (κ × α) → List (κ × α)
  | [] => [(k, f none)]
  | e :: es =>
    match compare k e.1 with
    | .lt => (k, f none) :: e :: es
    | .eq => (e.1, f (some e.2)) :: es
    | .gt => e :: alterEntries k f es

theorem lt_of_mem_alterEntries {a k : κ} {f : Option α → α} {es : List (κ × α)}
    (hk : compare a k = .lt) (hes : ∀ e ∈ es, compare a e.1 = .lt) :
    ∀ e ∈ alterEntries k f es, compare a e.1 = .lt := by
  induction es with
  | nil => simp [alterEntries, hk]
  | cons e es ih =>
    have he := hes e (by simp)
    have hes' : ∀ e ∈ es, compare a e.1 = .lt := fun e h => hes e (by simp [h])
    intro x hx
    unfold alterEntries at hx
    split at hx <;> grind

theorem alterEntries_sorted [Std.TransOrd κ] {k : κ} {f : Option α → α} {es : List (κ × α)}
    (h : es.Pairwise fun a b => compare a.1 b.1 = .lt) :
    (alterEntries k f es).Pairwise fun a b => compare a.1 b.1 = .lt := by
  induction es with
  | nil => simp [alterEntries]
  | cons e es ih =>
    have he := List.pairwise_cons.1 h
    unfold alterEntries
    split
    · rename_i hlt
      refine List.pairwise_cons.2 ⟨fun x hx => ?_, h⟩
      rcases List.mem_cons.1 hx with rfl | hx
      · exact hlt
      · exact Std.TransCmp.lt_trans hlt (he.1 x hx)
    · exact List.pairwise_cons.2 he
    · rename_i hgt
      exact List.pairwise_cons.2
        ⟨lt_of_mem_alterEntries (Std.OrientedCmp.lt_of_gt hgt) he.1, ih he.2⟩

variable [Std.TransOrd κ]

/-- Set the value of `k` to `f` of its present value. -/
def alter (m : SortedMap κ α) (k : κ) (f : Option α → α) : SortedMap κ α :=
  ⟨alterEntries k f m.entries, alterEntries_sorted m.sorted⟩

/-- Set the value of `k`; a value it had is replaced. -/
def insert (m : SortedMap κ α) (k : κ) (v : α) : SortedMap κ α := m.alter k fun _ => v

/-- Give `k` a value only if it has none. -/
def insertNew (m : SortedMap κ α) (k : κ) (v : α) : SortedMap κ α := m.alter k (·.getD v)

/-- Of two entries with one key the later one stays. -/
def ofList (es : List (κ × α)) : SortedMap κ α :=
  es.foldr (fun e m => m.insertNew e.1 e.2) empty

/-- Of two entries with one key the earlier one stays. -/
def ofListFirst (es : List (κ × α)) : SortedMap κ α :=
  es.foldr (fun e m => m.insert e.1 e.2) empty

/-- Collect the values of each key, in the order of the list. -/
def group (es : List (κ × α)) : SortedMap κ (List α) :=
  es.foldr (fun e m => m.alter e.1 fun vs => e.2 :: vs.getD []) empty

omit [Std.TransOrd κ] in
/-- Change every value. -/
def mapValues (m : SortedMap κ α) (f : κ → α → β) : SortedMap κ β :=
  ⟨m.entries.map fun e => (e.1, f e.1 e.2), List.pairwise_map.2 m.sorted⟩

omit [Std.TransOrd κ] in
theorem find?_eq_none_of_lt {k : κ} {es : List (κ × α)} (h : ∀ e ∈ es, compare k e.1 = .lt) :
    find? k es = none := by
  induction es with
  | nil => rfl
  | cons e es ih => simp [find?, h e (by simp), ih fun x hx => h x (by simp [hx])]

variable [Std.LawfulEqOrd κ] [DecidableEq κ]

theorem find?_alterEntries (k a : κ) (f : Option α → α) (es : List (κ × α))
    (h : es.Pairwise fun a b => compare a.1 b.1 = .lt) :
    find? a (alterEntries k f es) = if a = k then some (f (find? k es)) else find? a es := by
  induction es with
  | nil => simp [alterEntries, find?, Std.LawfulEqCmp.compare_eq_iff_eq]
  | cons e es ih =>
    have he := List.pairwise_cons.1 h
    unfold alterEntries
    split
    · rename_i hlt
      have hk : find? k (e :: es) = none := find?_eq_none_of_lt fun x hx => by
        rcases List.mem_cons.1 hx with rfl | hx
        · exact hlt
        · exact Std.TransCmp.lt_trans hlt (he.1 x hx)
      rw [hk]
      by_cases hak : a = k <;> simp [find?, hak, Std.LawfulEqCmp.compare_eq_iff_eq]
    · rename_i heq
      have : k = e.1 := Std.LawfulEqCmp.eq_of_compare heq
      subst this
      by_cases hak : a = e.1 <;> simp [find?, hak, Std.LawfulEqCmp.compare_eq_iff_eq]
    · rename_i hgt
      have hne : k ≠ e.1 := by
        rintro rfl
        simp at hgt
      by_cases hae : a = e.1
      · subst hae
        simp [find?, Ne.symm hne]
      · simp [find?, hae, hne, ih he.2, Std.LawfulEqCmp.compare_eq_iff_eq]

theorem get?_alter (m : SortedMap κ α) (k a : κ) (f : Option α → α) :
    (m.alter k f).get? a = if a = k then some (f (m.get? k)) else m.get? a :=
  find?_alterEntries k a f m.entries m.sorted

theorem get?_insert (m : SortedMap κ α) (k a : κ) (v : α) :
    (m.insert k v).get? a = if a = k then some v else m.get? a :=
  get?_alter m k a _

theorem get?_insertNew (m : SortedMap κ α) (k a : κ) (v : α) :
    (m.insertNew k v).get? a = if a = k then some ((m.get? k).getD v) else m.get? a :=
  get?_alter m k a _

end SortedMap

end SpecCoverage
