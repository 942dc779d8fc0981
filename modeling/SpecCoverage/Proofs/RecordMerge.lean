-- SUMMARY: The records of a kind hold the entries under all languages, merged by identifier without loss.
import SpecCoverage.Proofs.Order
import SpecCoverage.Report.OfDocument

/-!
# Merging entries into records

A record collects the entries of its identifier from under all names of all languages.
`CrossEntry.Merges` says what a list of records owes to the entries, without grouping them. It
leaves no choice, so reports that say the same of every identifier and language have the same
records, however the tests are spread over entries.
-/
namespace SpecCoverage

/-! ## Tests -/

theorem location?_eq_some_iff {c : OutputContext} {file? : Option String} {line? : Option Nat}
    {s : SourceLocation} :
    location? c file? line? = some s ↔
      file?.map c.relativize = some s.file ∧ line? = some s.line := by
  cases file? <;> cases line? <;> cases s <;> simp [location?]

/-- Does an implementation say what the entry of a test says? A location is there when both its file
and its line are. -/
structure ImplementationEntry.ConvertsTo (c : OutputContext) (t : ImplementationEntry)
    (i : Implementation) : Prop where
  testMethod : i.testMethod = t.testMethod
  testFile : i.testFile = c.relativize t.testFile
  testLine : i.testLine? = t.testLine?
  oldBehavior : ∀ s, i.oldBehavior? = some s ↔
    t.oldFile?.map c.relativize = some s.file ∧ t.oldLine? = some s.line
  newBehavior : ∀ s, i.newBehavior? = some s ↔
    t.newFile?.map c.relativize = some s.file ∧ t.newLine? = some s.line

theorem ImplementationEntry.convertsTo_iff {c : OutputContext} {t : ImplementationEntry}
    {i : Implementation} : t.ConvertsTo c i ↔ t.implementation c = i := by
  constructor
  · intro h
    cases i
    simp only [implementation, Implementation.mk.injEq]
    refine ⟨h.testMethod.symm, h.testFile.symm, h.testLine.symm, ?_, ?_⟩
    · exact Option.ext fun s => location?_eq_some_iff.trans (h.oldBehavior s).symm
    · exact Option.ext fun s => location?_eq_some_iff.trans (h.newBehavior s).symm
  · rintro rfl
    exact ⟨rfl, rfl, rfl, fun _ => location?_eq_some_iff, fun _ => location?_eq_some_iff⟩

namespace CrossEntry

/-! ## Entries -/

/-- Does an entry stand under a name of a language? -/
def Lists (e : CrossEntry) (name : String) (x : RecordEntry) : Prop :=
  ∃ xs, e.byLanguage.get? name = some xs ∧ x ∈ xs

/-- Does an entry say something of a record for a language, under whichever name of it? -/
def Tells (c : OutputContext) (e : CrossEntry) (id : String) (l : Language) (x : RecordEntry) :
    Prop :=
  x.id = id ∧ ∃ name, c.policy.resolve name = l ∧ e.Lists name x

/-- All entries, by the names of languages and then as they stand under a name. -/
def listing (e : CrossEntry) : List RecordEntry :=
  e.byLanguage.values.flatten

/-- The first description that is not empty among the entries of a record. -/
def firstDescription? (id : String) (xs : List RecordEntry) : Option String :=
  (xs.find? fun x => x.id = id ∧ x.description ≠ "").map (·.description)

/-- The first description among all entries, else the one that is listed for the record, else
none. -/
def descriptionOf (e : CrossEntry) (id : String) : String :=
  (firstDescription? id e.listing).getD ((e.descriptions.get? id).getD "")

/-- The records are those of the entries, in order, each with the languages, the tests and the
description that its entries give it. -/
structure Merges (c : OutputContext) (kind : RecordKind) (e : CrossEntry)
    (records : List CrossRecord) : Prop where
  kind : ∀ r ∈ records, r.kind = kind
  increasing : records.Pairwise fun r s => compare r.id s.id = .lt
  mem_ids : ∀ id, id ∈ records.map (·.id) ↔ ∃ name x, e.Lists name x ∧ x.id = id
  languages : ∀ r ∈ records, ∀ l,
    (r.implementations.get? l).isSome ↔ ∃ x, e.Tells c r.id l x
  tests_increasing : ∀ r ∈ records, ∀ l is, r.implementations.get? l = some is →
    is.Pairwise fun i j => compare i j = .lt
  tests : ∀ r ∈ records, ∀ l is, r.implementations.get? l = some is →
    ∀ i, i ∈ is ↔ ∃ x t, e.Tells c r.id l x ∧ t ∈ x.implementations ∧ t.ConvertsTo c i
  description : ∀ r ∈ records, r.description = e.descriptionOf r.id

variable {c : OutputContext} {kind : RecordKind} {e e' : CrossEntry}

/-! ## What grouping gives -/

/-- The entries with the identifier they have and the language they stand under. -/
def placed (c : OutputContext) (e : CrossEntry) : List (String × Language × RecordEntry) :=
  e.byLanguage.entries.flatMap fun (name, xs) =>
    xs.map fun x => (x.id, (c.policy.resolve name, x))

theorem mem_placed {id : String} {l : Language} {x : RecordEntry} :
    (id, (l, x)) ∈ e.placed c ↔ e.Tells c id l x := by
  simp only [placed, List.mem_flatMap, List.mem_map, Prod.mk.injEq, Prod.exists]
  constructor
  · rintro ⟨name, xs, hxs, x, hx, rfl, rfl, rfl⟩
    exact ⟨rfl, name, rfl, xs, SortedMap.get?_eq_some_iff.2 hxs, hx⟩
  · rintro ⟨rfl, name, rfl, xs, hxs, hx⟩
    exact ⟨name, xs, SortedMap.get?_eq_some_iff.1 hxs, x, hx, rfl, rfl, rfl⟩

theorem map_placed : (e.placed c).map (·.2.2) = e.listing := by
  simp only [placed, listing, SortedMap.values, List.map_flatMap, List.map_map]
  rw [← List.flatMap_def]
  refine List.flatMap_congr fun entry _ => ?_
  exact List.map_id _

/-- The entries of a record with their languages. -/
def entriesOf (c : OutputContext) (e : CrossEntry) (id : String) : List (Language × RecordEntry) :=
  ((e.placed c).filter (·.1 = id)).map (·.2)

theorem mem_entriesOf {id : String} {l : Language} {x : RecordEntry} :
    (l, x) ∈ e.entriesOf c id ↔ e.Tells c id l x := by
  rw [← mem_placed]
  simp [entriesOf]

theorem entriesOf_eq_nil_iff {id : String} :
    e.entriesOf c id = [] ↔ ¬ ∃ name x, e.Lists name x ∧ x.id = id := by
  rw [List.eq_nil_iff_forall_not_mem]
  constructor
  · rintro h ⟨name, x, hx, hid⟩
    exact h (c.policy.resolve name, x) (mem_entriesOf.2 ⟨hid, name, rfl, hx⟩)
  · rintro h ⟨l, x⟩ hx
    obtain ⟨hid, name, -, hname⟩ := mem_entriesOf.1 hx
    exact h ⟨name, x, hname, hid⟩

theorem get?_entriesById (c : OutputContext) (e : CrossEntry) (id : String) :
    (e.entriesById c).get? id =
      if e.entriesOf c id = [] then none else some (e.entriesOf c id) := by
  have hgroup : (e.entriesById c).get? id =
      if id ∈ (e.placed c).map (·.1) then some (e.entriesOf c id) else none :=
    SortedMap.get?_group (e.placed c) id
  rw [hgroup]
  by_cases h : id ∈ (e.placed c).map (·.1)
  · have hne : e.entriesOf c id ≠ [] := by
      obtain ⟨p, hp, rfl⟩ := List.mem_map.1 h
      exact List.ne_nil_of_mem (mem_entriesOf.2 (mem_placed.1 hp))
    rw [if_pos h, if_neg hne]
  · have hnil : e.entriesOf c id = [] := by
      rw [entriesOf, List.map_eq_nil_iff, List.filter_eq_nil_iff]
      intro p hp heq
      exact h (List.mem_map.2 ⟨p, hp, by simpa using heq⟩)
    rw [if_neg h, if_pos hnil]

/-! ## What a record holds -/

theorem mem_records {r : CrossRecord} :
    r ∈ e.records c kind ↔ e.entriesOf c r.id ≠ [] ∧
      r = ⟨kind, r.id, e.describe r.id (e.entriesOf c r.id),
        implementations c (e.entriesOf c r.id)⟩ := by
  simp only [records, List.mem_map, Prod.exists, ← SortedMap.get?_eq_some_iff, get?_entriesById]
  constructor
  · rintro ⟨id, entries, hget, rfl⟩
    split at hget
    · cases hget
    · cases hget
      exact ⟨by assumption, rfl⟩
  · rintro ⟨hne, hr⟩
    exact ⟨r.id, e.entriesOf c r.id, if_neg hne, hr.symm⟩

theorem get?_implementations (entries : List (Language × RecordEntry)) (l : Language) :
    (implementations c entries).get? l =
      if l ∈ entries.map (·.1) then
        some (SortedSet.ofList (((entries.filter (·.1 = l)).map (·.2)).flatMap fun x =>
          x.implementations.map (·.implementation c))).toList
      else none := by
  rw [implementations, SortedMap.get?_mapValues, SortedMap.get?_group]
  split <;> rfl

theorem describe_entriesOf (id : String) :
    e.describe id (e.entriesOf c id) = e.descriptionOf id := by
  -- Both look for a description in the same order: by group here, among all entries there.
  have hentries : (e.entriesOf c id).map (·.2.description) =
      (e.listing.filter (·.id = id)).map (·.description) := by
    have hid : ∀ p ∈ e.placed c, (p.1 = id) = (p.2.2.id = id) := by
      rintro ⟨i, l, x⟩ hp
      rw [(mem_placed.1 hp).1]
    have hfilter : (e.placed c).filter (·.1 = id) = (e.placed c).filter (·.2.2.id = id) :=
      List.filter_congr fun p hp => by simp only [hid p hp]
    rw [← map_placed (c := c), List.filter_map, entriesOf, hfilter, List.map_map, List.map_map]
    rfl
  rw [describe, descriptionOf, firstDescription?, hentries, List.find?_map, List.find?_filter]
  simp

theorem merges_records (c : OutputContext) (kind : RecordKind) (e : CrossEntry) :
    e.Merges c kind (e.records c kind) where
  kind := by
    intro r hr
    rw [(mem_records.1 hr).2]
  increasing := List.pairwise_map.2 (e.entriesById c).sorted
  mem_ids := by
    intro id
    have hids : (e.records c kind).map (·.id) = (e.entriesById c).keys := by
      rw [records, List.map_map]
      rfl
    rw [hids, SortedMap.mem_keys_iff, get?_entriesById, Option.isSome_ite', entriesOf_eq_nil_iff,
      not_not]
  languages := by
    intro r hr l
    rw [(mem_records.1 hr).2, get?_implementations, Option.isSome_ite]
    constructor
    · intro h
      obtain ⟨⟨_, x⟩, hx, rfl⟩ := List.mem_map.1 h
      exact ⟨x, mem_entriesOf.1 hx⟩
    · rintro ⟨x, hx⟩
      exact List.mem_map.2 ⟨(l, x), mem_entriesOf.2 hx, rfl⟩
  tests_increasing := by
    intro r hr l is his
    rw [(mem_records.1 hr).2, get?_implementations] at his
    split at his
    · cases his
      exact SortedSet.sorted _
    · cases his
  tests := by
    intro r hr l is his i
    rw [(mem_records.1 hr).2, get?_implementations] at his
    split at his
    · cases his
      simp only [← SortedSet.mem_def, SortedSet.mem_ofList, List.mem_flatMap, List.mem_map,
        List.mem_filter, decide_eq_true_eq, Prod.exists, ImplementationEntry.convertsTo_iff]
      constructor
      · rintro ⟨_, ⟨_, x, ⟨hx, rfl⟩, rfl⟩, t, ht, hi⟩
        exact ⟨x, t, mem_entriesOf.1 hx, ht, hi⟩
      · rintro ⟨x, t, hx, ht, hi⟩
        exact ⟨x, ⟨l, x, ⟨mem_entriesOf.2 hx, rfl⟩, rfl⟩, t, ht, hi⟩
    · cases his
  description := by
    intro r hr
    rw [(mem_records.1 hr).2]
    exact describe_entriesOf r.id

/-! ## The entries leave no choice -/

section

variable {records records' : List CrossRecord}

theorem Merges.implementations_eq (h : e.Merges c kind records) (h' : e.Merges c kind records')
    {r s : CrossRecord} (hr : r ∈ records) (hs : s ∈ records') (hid : r.id = s.id) :
    r.implementations = s.implementations := by
  refine SortedMap.ext_get? fun l => ?_
  have hsome : (r.implementations.get? l).isSome ↔ (s.implementations.get? l).isSome := by
    rw [h.languages r hr l, h'.languages s hs l, hid]
  cases his : r.implementations.get? l with
  | none =>
    rw [his] at hsome
    exact (Option.not_isSome_iff_eq_none.1 fun hs => absurd (hsome.2 hs) (by simp)).symm
  | some is =>
    rw [his] at hsome
    obtain ⟨js, hjs⟩ := Option.isSome_iff_exists.1 (hsome.1 rfl)
    have hmembers : ∀ i, i ∈ is ↔ i ∈ js := by
      intro i
      rw [h.tests r hr l is his, h'.tests s hs l js hjs, hid]
    rw [hjs, SortedSet.eq_of_mem_iff_mem (h.tests_increasing r hr l is his)
      (h'.tests_increasing s hs l js hjs) hmembers]

theorem Merges.eq_of_id_eq (h : e.Merges c kind records) (h' : e.Merges c kind records')
    {r s : CrossRecord} (hr : r ∈ records) (hs : s ∈ records') (hid : r.id = s.id) : r = s := by
  have hkind : r.kind = s.kind := (h.kind r hr).trans (h'.kind s hs).symm
  have hdescription : r.description = s.description := by
    rw [h.description r hr, h'.description s hs, hid]
  have himplementations := h.implementations_eq h' hr hs hid
  cases r; cases s
  simp_all only

theorem Merges.subset (h : e.Merges c kind records) (h' : e.Merges c kind records') :
    records ⊆ records' := by
  intro r hr
  have hid : r.id ∈ records'.map (·.id) :=
    (h'.mem_ids r.id).2 ((h.mem_ids r.id).1 (List.mem_map_of_mem hr))
  obtain ⟨s, hs, heq⟩ := List.mem_map.1 hid
  exact h.eq_of_id_eq h' hr hs heq.symm ▸ hs

/-- There is one list of records at most that the entries merge to. -/
theorem Merges.unique (h : e.Merges c kind records) (h' : e.Merges c kind records') :
    records = records' := by
  have hnodup {rs : List CrossRecord} (hr : e.Merges c kind rs) : rs.Nodup := by
    refine hr.increasing.imp fun {a b} hab => ?_
    rintro rfl
    simp at hab
  refine List.Perm.eq_of_pairwise ?_ h.increasing h'.increasing ?_
  · intro r s _ _ hrs hsr
    exact absurd (Std.TransCmp.lt_trans hrs hsr) (by simp)
  · refine (List.perm_ext_iff_of_nodup (hnodup h) (hnodup h')).2 fun r => ?_
    exact ⟨fun hr => h.subset h' hr, fun hr => h'.subset h hr⟩

end

/-- Do two reports say the same of every record and language? -/
structure Agrees (c : OutputContext) (e e' : CrossEntry) : Prop where
  listed : ∀ id l, (∃ x, e.Tells c id l x) ↔ ∃ x, e'.Tells c id l x
  tests : ∀ id l t, (∃ x, e.Tells c id l x ∧ t ∈ x.implementations) ↔
    ∃ x, e'.Tells c id l x ∧ t ∈ x.implementations
  description : ∀ id, e.descriptionOf id = e'.descriptionOf id

theorem exists_lists_iff (c : OutputContext) {id : String} :
    (∃ name x, e.Lists name x ∧ x.id = id) ↔ ∃ l x, e.Tells c id l x := by
  constructor
  · rintro ⟨name, x, hx, hid⟩
    exact ⟨_, x, hid, name, rfl, hx⟩
  · rintro ⟨l, x, hid, name, -, hx⟩
    exact ⟨name, x, hx, hid⟩

theorem Merges.of_agrees {records : List CrossRecord} (h : e.Agrees c e')
    (hmerges : e'.Merges c kind records) : e.Merges c kind records where
  kind := hmerges.kind
  increasing := hmerges.increasing
  mem_ids := by
    intro id
    rw [hmerges.mem_ids, exists_lists_iff c, exists_lists_iff c]
    exact exists_congr fun l => (h.listed id l).symm
  languages := by
    intro r hr l
    rw [hmerges.languages r hr, h.listed]
  tests_increasing := hmerges.tests_increasing
  tests := by
    intro r hr l is his i
    rw [hmerges.tests r hr l is his]
    constructor
    · rintro ⟨x, t, hx, ht, hi⟩
      obtain ⟨y, hy, ht⟩ := (h.tests r.id l t).2 ⟨x, hx, ht⟩
      exact ⟨y, t, hy, ht, hi⟩
    · rintro ⟨x, t, hx, ht, hi⟩
      obtain ⟨y, hy, ht⟩ := (h.tests r.id l t).1 ⟨x, hx, ht⟩
      exact ⟨y, t, hy, ht, hi⟩
  description := by
    intro r hr
    rw [hmerges.description r hr, h.description]

theorem records_eq_of_agrees (h : e.Agrees c e') : e.records c kind = e'.records c kind :=
  (merges_records c kind e).unique ((merges_records c kind e').of_agrees h)

end CrossEntry

/-! ## Cutting an entry -/

/-- The tests of an entry are spread over several entries with its identifier and description, in
whichever order. -/
structure RecordEntry.SplitsInto (x : RecordEntry) (pieces : List RecordEntry) : Prop where
  nonempty : pieces ≠ []
  id : ∀ y ∈ pieces, y.id = x.id
  description : ∀ y ∈ pieces, y.description = x.description
  tests : ∀ t, t ∈ x.implementations ↔ ∃ y ∈ pieces, t ∈ y.implementations

namespace CrossEntry

/-- The report with other entries under a name. -/
def withEntries (e : CrossEntry) (name : String) (xs : List RecordEntry) : CrossEntry :=
  { e with byLanguage := e.byLanguage.insert name xs }

variable {c : OutputContext} {kind : RecordKind} {e : CrossEntry}

theorem lists_withEntries {name other : String} {xs : List RecordEntry} {x : RecordEntry} :
    (e.withEntries name xs).Lists other x ↔
      if other = name then x ∈ xs else e.Lists other x := by
  simp only [Lists, withEntries, SortedMap.get?_insert]
  split <;> simp

theorem firstDescription?_append (id : String) (xs ys : List RecordEntry) :
    firstDescription? id (xs ++ ys) = (firstDescription? id xs).or (firstDescription? id ys) := by
  simp [firstDescription?, List.find?_append, Option.map_or]

theorem firstDescription?_pieces {x : RecordEntry} {pieces : List RecordEntry}
    (h : x.SplitsInto pieces) (id : String) :
    firstDescription? id pieces = firstDescription? id [x] := by
  obtain ⟨y, ys, rfl⟩ := List.exists_cons_of_ne_nil h.nonempty
  by_cases hx : x.id = id ∧ x.description ≠ ""
  · have hy : y.id = id ∧ y.description ≠ "" := by
      rwa [h.id y List.mem_cons_self, h.description y List.mem_cons_self]
    rw [firstDescription?, firstDescription?, List.find?_cons_of_pos (by simpa using hy),
      List.find?_cons_of_pos (by simpa using hx), Option.map_some, Option.map_some,
      h.description y List.mem_cons_self]
  · have hnone : ∀ z ∈ y :: ys, ¬ (z.id = id ∧ z.description ≠ "") := by
      intro z hz
      rwa [h.id z hz, h.description z hz]
    have hpieces : (y :: ys).find? (fun z => z.id = id ∧ z.description ≠ "") = none :=
      List.find?_eq_none.2 fun z hz => by simpa using hnone z hz
    rw [firstDescription?, firstDescription?, hpieces, List.find?_cons_of_neg (by simpa using hx)]
    rfl

section

variable {name : String} {before after pieces : List RecordEntry} {x : RecordEntry}

/-- What holds of an entry just when it holds of a piece is met under the same names. -/
theorem exists_lists_withEntries (hlist : e.byLanguage.get? name = some (before ++ x :: after))
    {P : RecordEntry → Prop} (hP : P x ↔ ∃ y ∈ pieces, P y) (other : String) :
    (∃ z, e.Lists other z ∧ P z) ↔
      ∃ z, (e.withEntries name (before ++ pieces ++ after)).Lists other z ∧ P z := by
  simp only [lists_withEntries]
  by_cases hother : other = name
  · subst hother
    simp only [Lists, hlist, Option.some.injEq, exists_eq_left', List.mem_append, List.mem_cons]
    constructor
    · rintro ⟨z, hz | rfl | hz, hPz⟩
      · exact ⟨z, .inl (.inl hz), hPz⟩
      · obtain ⟨y, hy, hPy⟩ := hP.1 hPz
        exact ⟨y, .inl (.inr hy), hPy⟩
      · exact ⟨z, .inr hz, hPz⟩
    · rintro ⟨z, (hz | hz) | hz, hPz⟩
      · exact ⟨z, .inl hz, hPz⟩
      · exact ⟨x, .inr (.inl rfl), hP.2 ⟨z, hz, hPz⟩⟩
      · exact ⟨z, .inr (.inr hz), hPz⟩
  · simp only [if_neg hother]

theorem exists_tells_withEntries (hlist : e.byLanguage.get? name = some (before ++ x :: after))
    {id : String} {Q : RecordEntry → Prop}
    (hQ : (x.id = id ∧ Q x) ↔ ∃ y ∈ pieces, y.id = id ∧ Q y) (l : Language) :
    (∃ z, e.Tells c id l z ∧ Q z) ↔
      ∃ z, (e.withEntries name (before ++ pieces ++ after)).Tells c id l z ∧ Q z := by
  have hunder (e : CrossEntry) : (∃ z, e.Tells c id l z ∧ Q z) ↔
      ∃ other, c.policy.resolve other = l ∧ ∃ z, e.Lists other z ∧ z.id = id ∧ Q z := by
    constructor
    · rintro ⟨z, ⟨hid, other, hl, hz⟩, hq⟩
      exact ⟨other, hl, z, hz, hid, hq⟩
    · rintro ⟨other, hl, z, hz, hid, hq⟩
      exact ⟨z, ⟨hid, other, hl, hz⟩, hq⟩
  rw [hunder, hunder]
  exact exists_congr fun other => and_congr_right fun _ =>
    exists_lists_withEntries hlist hQ other

/-- Cutting an entry where it stands changes nothing of what the report says of a record. -/
theorem agrees_withEntries (hlist : e.byLanguage.get? name = some (before ++ x :: after))
    (h : x.SplitsInto pieces) :
    e.Agrees c (e.withEntries name (before ++ pieces ++ after)) where
  listed := by
    intro id l
    have hid : x.id = id ∧ True ↔ ∃ y ∈ pieces, y.id = id ∧ True := by
      obtain ⟨y, hy⟩ := List.exists_mem_of_ne_nil pieces h.nonempty
      constructor
      · rintro ⟨rfl, -⟩
        exact ⟨y, hy, h.id y hy, trivial⟩
      · rintro ⟨z, hz, rfl, -⟩
        exact ⟨(h.id z hz).symm, trivial⟩
    simpa using exists_tells_withEntries (c := c) (Q := fun _ => True) hlist hid l
  tests := by
    intro id l t
    refine exists_tells_withEntries hlist ?_ l
    constructor
    · rintro ⟨rfl, ht⟩
      obtain ⟨y, hy, ht⟩ := (h.tests t).1 ht
      exact ⟨y, hy, h.id y hy, ht⟩
    · rintro ⟨y, hy, rfl, ht⟩
      exact ⟨(h.id y hy).symm, (h.tests t).2 ⟨y, hy, ht⟩⟩
  description := by
    intro id
    obtain ⟨left, right, hentries, hcut⟩ :=
      SortedMap.exists_entries_insert hlist (before ++ pieces ++ after)
    have hlisting : e.listing =
        (left.map (·.2)).flatten ++ (before ++ [x] ++ after) ++ (right.map (·.2)).flatten := by
      simp [listing, SortedMap.values, hentries]
    have hlisting' : (e.withEntries name (before ++ pieces ++ after)).listing =
        (left.map (·.2)).flatten ++ (before ++ pieces ++ after) ++ (right.map (·.2)).flatten := by
      simp only [listing, withEntries, SortedMap.values, hcut]
      simp
    have hdescriptions :
        (e.withEntries name (before ++ pieces ++ after)).descriptions = e.descriptions := rfl
    simp only [descriptionOf, hlisting, hlisting', firstDescription?_append,
      firstDescription?_pieces h, hdescriptions]

end

/-- The records of a kind are a merge without loss of all its entries: they have what the entries
say, so that reports which say the same of every record and language have the same records, and
cutting an entry or putting its tests in another order changes nothing. -/
theorem records_lossless (c : OutputContext) (kind : RecordKind) (e : CrossEntry) :
    e.Merges c kind (e.records c kind) ∧
      (∀ e', e.Agrees c e' → e.records c kind = e'.records c kind) ∧
      ∀ name before x after pieces, e.byLanguage.get? name = some (before ++ x :: after) →
        x.SplitsInto pieces →
        (e.withEntries name (before ++ pieces ++ after)).records c kind = e.records c kind := by
  refine ⟨merges_records c kind e, fun _ => records_eq_of_agrees, ?_⟩
  intro name before x after pieces hlist h
  exact (records_eq_of_agrees (agrees_withEntries hlist h)).symm

/-- A test without locations. -/
def selectTest (method : String) : ImplementationEntry :=
  ⟨method, "core/tests/select.rs", none, none, none, none, none⟩

/-- An entry with two tests. -/
def selectEntry : RecordEntry :=
  ⟨"BD#2", "Empty results are lists", [selectTest "select_one", selectTest "select_none"]⟩

/-- A report with one record under two names of one language. -/
def selectReport : CrossEntry where
  descriptions := .ofList [("BD#2", "Results"), ("BD#3", "Nothing asserts this")]
  byLanguage := .ofList [("Core", [⟨"BD#2", "", [selectTest "select_none"]⟩]),
    ("rust", [selectEntry])]

/-- The tests of `selectEntry` one by one and in another order. -/
def selectPieces : List RecordEntry :=
  [{ selectEntry with implementations := [selectTest "select_none"] },
    { selectEntry with implementations := [selectTest "select_one"] }]

theorem splitsInto_selectPieces : selectEntry.SplitsInto selectPieces where
  nonempty := by decide
  id := by decide
  description := by decide
  tests := by
    intro t
    simp [selectEntry, selectPieces, or_comm]

theorem records_lossless_select :
    selectReport.byLanguage.get? "rust" = some ([] ++ selectEntry :: []) ∧
      selectEntry.SplitsInto selectPieces ∧
      selectReport.Merges ⟨"/repo", .default⟩ .behaviorDifference
        (selectReport.records ⟨"/repo", .default⟩ .behaviorDifference) ∧
      (selectReport.withEntries "rust" ([] ++ selectPieces ++ [])).records ⟨"/repo", .default⟩
        .behaviorDifference = selectReport.records ⟨"/repo", .default⟩ .behaviorDifference := by
  have hlist : selectReport.byLanguage.get? "rust" = some ([] ++ selectEntry :: []) := by decide
  have hlossless := records_lossless ⟨"/repo", .default⟩ .behaviorDifference selectReport
  exact ⟨hlist, splitsInto_selectPieces, hlossless.1,
    hlossless.2.2 "rust" [] selectEntry [] selectPieces hlist splitsInto_selectPieces⟩

end CrossEntry

end SpecCoverage
