-- SUMMARY: The changes of a JSON value that its decoder does not see.
import Mathlib.Data.List.Zip
import Mathlib.Logic.Relation
import SpecCoverage.Json.Decode
import SpecCoverage.Proofs.Order

/-!
# Shapes of JSON values

The order of members, the choice among the spellings of a field and members that no decoder looks
for belong to the presentation of a value. A `Shape` says which of its objects are maps and which
are records, and `Shape.Rewrites` what may change in each of them. A decoder respects a shape when
rewritten values decode alike; the decoders of lists, maps and records do so as those of their parts
do.
-/
namespace SpecCoverage

open Json

-- ---------------------------------------------------------------------------
-- Rewriting
-- ---------------------------------------------------------------------------

/-- What a value is taken for. -/
inductive Shape where
  /-- A value without parts. -/
  | plain
  | list (item : Shape)
  /-- An object whose names are keys. -/
  | map (value : Shape)
  /-- An object whose names are spellings of fields, with the shapes of the fields in order. -/
  | record (schema : List Spellings) (values : List Shape)

namespace Shape

/-- Is the name no spelling of a field? -/
def Unknown (schema : List Spellings) (name : String) : Prop :=
  ∀ spellings ∈ schema, name ∉ spellings

/-- One change of the presentation of a value. -/
inductive Rewrites : Shape → Json → Json → Prop
  /-- An item of an array is rewritten. -/
  | item {s : Shape} {before after : List Json} {v w : Json} (h : Rewrites s v w) :
    Rewrites (.list s) (.array (before ++ v :: after)) (.array (before ++ w :: after))
  /-- The value of a key is rewritten. -/
  | entry {s : Shape} {before after : List (Option String × Json)} {key : Option String}
      {v w : Json} (h : Rewrites s v w) :
    Rewrites (.map s) (.object (before ++ (key, v) :: after))
      (.object (before ++ (key, w) :: after))
  /-- The members of a map change places, those of one key among themselves do not. -/
  | reordered {s : Shape} {ms ns : List (Option String × Json)} (hperm : ms.Perm ns)
      (hkeys : ∀ key, ms.filter (·.1 = key) = ns.filter (·.1 = key)) :
    Rewrites (.map s) (.object ms) (.object ns)
  /-- The members of a record change places. -/
  | permuted {schema : List Spellings} {values : List Shape} {ms ns : List (Option String × Json)}
      (hperm : ms.Perm ns) : Rewrites (.record schema values) (.object ms) (.object ns)
  /-- A field is given under another one of its spellings. -/
  | respelled {schema : List Spellings} {values : List Shape} {spellings : Spellings} {s : Shape}
      {before after : List (Option String × Json)} {a b : String} {v : Json}
      (hfield : (spellings, s) ∈ schema.zip values) (ha : a ∈ spellings) (hb : b ∈ spellings) :
    Rewrites (.record schema values) (.object (before ++ (some a, v) :: after))
      (.object (before ++ (some b, v) :: after))
  /-- A member of any value is added, its name a text that spells no field. -/
  | added {schema : List Spellings} {values : List Shape}
      {before after : List (Option String × Json)} {name : String} {v : Json}
      (hname : Unknown schema name) :
    Rewrites (.record schema values) (.object (before ++ after))
      (.object (before ++ (some name, v) :: after))
  /-- The value of a field is rewritten. -/
  | field {schema : List Spellings} {values : List Shape} {spellings : Spellings} {s : Shape}
      {before after : List (Option String × Json)} {name : String} {v w : Json}
      (hfield : (spellings, s) ∈ schema.zip values) (hname : name ∈ spellings)
      (h : Rewrites s v w) :
    Rewrites (.record schema values) (.object (before ++ (some name, v) :: after))
      (.object (before ++ (some name, w) :: after))
  /-- The value of a member that is no field changes in any way. -/
  | unread {schema : List Spellings} {values : List Shape}
      {before after : List (Option String × Json)} {name : String} {v w : Json}
      (hname : Unknown schema name) :
    Rewrites (.record schema values) (.object (before ++ (some name, v) :: after))
      (.object (before ++ (some name, w) :: after))

/-- Do rewritten values decode alike? -/
def Respects {α : Type} (s : Shape) (value? : Json → Option α) : Prop :=
  ∀ {v w}, s.Rewrites v w → value? v = value? w

section

variable {α : Type} {s : Shape} {value? : Json → Option α}

theorem Respects.reflTransGen (h : Respects s value?) {v w : Json}
    (hvw : Relation.ReflTransGen s.Rewrites v w) : value? v = value? w := by
  induction hvw with
  | refl => rfl
  | tail _ hstep ih => exact ih.trans (h hstep)

theorem respects_plain (value? : Json → Option α) : Respects .plain value? :=
  fun h => nomatch h

theorem respects_list (h : Respects s value?) : Respects (.list s) (asList? value?) := by
  intro v w hvw
  cases hvw with
  | item hitem => simp only [asList?, List.mapM_append, List.mapM_cons, h hitem]

/-- A value that can be rewritten is not `null`, and stays so. -/
theorem respects_optional (h : Respects s value?) : Respects s (asOptional? value?) := by
  intro v w hvw
  have hsome : ∀ {v}, v ≠ .null → asOptional? value? v = (value? v).map some := by
    intro v hv
    cases v <;> first | rfl | exact absurd rfl hv
  have hne : v ≠ .null ∧ w ≠ .null := by cases hvw <;> simp
  rw [hsome hne.1, hsome hne.2, h hvw]

-- ---------------------------------------------------------------------------
-- Maps
-- ---------------------------------------------------------------------------

theorem namedMembers?_append (ms ns : List (Option String × Json)) :
    namedMembers? value? (ms ++ ns) =
      (namedMembers? value? ms).bind fun es => (namedMembers? value? ns).map (es ++ ·) := by
  have happend : namedMembers? value? (ms ++ ns) = do
      return (← namedMembers? value? ms) ++ (← namedMembers? value? ns) := List.mapM_append ..
  rw [happend]
  cases namedMembers? value? ms <;> cases namedMembers? value? ns <;> rfl

theorem namedMembers?_cons (key : String) (v : Json) (ms : List (Option String × Json)) :
    namedMembers? value? ((some key, v) :: ms) =
      (value? v).bind fun a => (namedMembers? value? ms).map ((key, a) :: ·) := by
  have hcons : namedMembers? value? ((some key, v) :: ms) = do
      return (← (value? v).map (key, ·)) :: (← namedMembers? value? ms) := List.mapM_cons ..
  rw [hcons]
  cases value? v <;> cases namedMembers? value? ms <;> rfl

/-- Looking for the members of one key can be done before their values are decoded. -/
theorem namedMembers?_filter {ms : List (Option String × Json)} {es : List (String × α)}
    (h : namedMembers? value? ms = some es) (key : String) :
    namedMembers? value? (ms.filter (·.1 = some key)) = some (es.filter (·.1 = key)) := by
  induction ms generalizing es with
  | nil =>
    cases h
    rfl
  | cons m ms ih =>
    obtain ⟨name?, v⟩ := m
    cases name? with
    | none => cases h
    | some name =>
      rw [namedMembers?_cons] at h
      obtain ⟨a, ha, h⟩ := Option.bind_eq_some_iff.1 h
      obtain ⟨es, hes, rfl⟩ := Option.map_eq_some_iff.1 h
      by_cases hkey : name = key
      · simp [namedMembers?_cons, hkey, ha, ih hes]
      · simp [hkey, ih hes]

/-- A traversal of the same elements in another order gives the same results in another order. -/
theorem rel_mapM_of_perm {β γ : Type} {f : β → Option γ} {xs ys : List β} (h : xs.Perm ys) :
    Option.Rel List.Perm (xs.mapM f) (ys.mapM f) := by
  induction h with
  | nil => exact .some .nil
  | @cons x xs ys _ ih =>
    rw [List.mapM_cons, List.mapM_cons]
    generalize xs.mapM f = as, ys.mapM f = bs at ih
    cases f x with
    | none => exact .none
    | some a =>
      cases ih with
      | none => exact .none
      | some hperm => exact .some (hperm.cons a)
  | swap x y xs =>
    simp only [List.mapM_cons]
    cases f x <;> cases f y <;> cases xs.mapM f <;> first | exact .none | exact .some (.swap ..)
  | @trans xs ys zs _ _ ih ih' =>
    generalize xs.mapM f = as, ys.mapM f = bs, zs.mapM f = cs at ih ih'
    cases ih with
    | none => exact ih'
    | some hperm =>
      cases ih' with
      | some hperm' => exact .some (hperm.trans hperm')

theorem respects_map (h : Respects s value?) : Respects (.map s) (asMap? value?) := by
  intro v w hvw
  cases hvw with
  | @entry _ before after key v w hstep =>
    rw [asMap?, asMap?, namedMembers?_append, namedMembers?_append]
    cases key with
    | none => rfl
    | some key => rw [namedMembers?_cons, namedMembers?_cons, h hstep]
  | @reordered _ ms ns hperm hkeys =>
    have hrel : Option.Rel List.Perm (namedMembers? value? ms) (namedMembers? value? ns) :=
      rel_mapM_of_perm hperm
    rw [asMap?, asMap?]
    generalize hes : namedMembers? value? ms = es?, hfs : namedMembers? value? ns = fs? at hrel
    cases hrel with
    | none => rfl
    | @some es fs _ =>
      have hfilter (key : String) : es.filter (·.1 = key) = fs.filter (·.1 = key) := by
        have hes := namedMembers?_filter hes key
        rw [hkeys, namedMembers?_filter hfs key] at hes
        exact (Option.some.inj hes).symm
      refine congrArg some (SortedMap.ext_get? fun key => ?_)
      rw [← SortedMap.get?_ofList_filter (p := (· = key)) (by simp), hfilter,
        SortedMap.get?_ofList_filter (p := (· = key)) (by simp)]

-- ---------------------------------------------------------------------------
-- The fields of an object
-- ---------------------------------------------------------------------------

theorem memberOf?_of_notMem {spellings : Spellings} {name : String} (h : name ∉ spellings)
    (before after : List (String × Json)) (v : Json) :
    memberOf? spellings (before ++ (name, v) :: after) = memberOf? spellings (before ++ after) := by
  simp [memberOf?, List.filter_append, h]

/-- A member of a field is its only one or one of too many. -/
theorem memberOf?_of_mem {spellings : Spellings} {name : String} (h : name ∈ spellings)
    (before after : List (String × Json)) (v : Json) :
    memberOf? spellings (before ++ (name, v) :: after) =
      if ∀ m ∈ before ++ after, m.1 ∉ spellings then some (some v) else none := by
  have hnil (ms : List (String × Json)) :
      ms.filter (·.1 ∈ spellings) = [] ↔ ∀ m ∈ ms, m.1 ∉ spellings := by
    simp [List.filter_eq_nil_iff]
  rw [memberOf?, List.filter_append, List.filter_cons_of_pos (by simpa using h)]
  simp only [List.forall_mem_append, ← hnil]
  cases before.filter (·.1 ∈ spellings) with
  | nil => cases after.filter (·.1 ∈ spellings) <;> simp
  | cons m ms => cases ms <;> simp

theorem memberOf?_of_perm {spellings : Spellings} {ms ns : List (String × Json)} (h : ms.Perm ns) :
    memberOf? spellings ms = memberOf? spellings ns := by
  have hfilter := h.filter (·.1 ∈ spellings)
  rw [memberOf?, memberOf?]
  generalize ms.filter (·.1 ∈ spellings) = ms, ns.filter (·.1 ∈ spellings) = ns at hfilter
  match ms, hfilter with
  | [], hperm => rw [List.nil_perm.1 hperm]
  | [m], hperm => rw [List.singleton_perm.1 hperm]
  | _ :: _ :: _, hperm =>
    match ns, hperm.length_eq with
    | _ :: _ :: _, _ => rfl

theorem fields?_object (schema : List Spellings) (ms : List (Option String × Json)) :
    fields? schema (.object ms) = (namedMembers? some ms).bind fun named =>
      schema.mapM fun spellings => memberOf? spellings named := rfl

theorem fields?_append (schema : List Spellings) (before after : List (Option String × Json)) :
    fields? schema (.object (before ++ after)) =
      (namedMembers? some before).bind fun before => (namedMembers? some after).bind fun after =>
        schema.mapM fun spellings => memberOf? spellings (before ++ after) := by
  rw [fields?_object, namedMembers?_append, Option.bind_assoc]
  simp only [Option.bind_map, Function.comp_def]

theorem fields?_middle (schema : List Spellings) (before after : List (Option String × Json))
    (name : String) (v : Json) :
    fields? schema (.object (before ++ (some name, v) :: after)) =
      (namedMembers? some before).bind fun before => (namedMembers? some after).bind fun after =>
        schema.mapM fun spellings => memberOf? spellings (before ++ (name, v) :: after) := by
  rw [fields?_append, namedMembers?_cons]
  simp only [Option.bind_some, Option.bind_map, Function.comp_def]

end

-- ---------------------------------------------------------------------------
-- Records
-- ---------------------------------------------------------------------------

/-- What a rewriting does to a field that may be missing. -/
inductive FieldRewrites (s : Shape) : Option Json → Option Json → Prop
  | same (field : Option Json) : FieldRewrites s field field
  | value {v w : Json} (h : s.Rewrites v w) : FieldRewrites s (some v) (some w)

/-- What a rewriting does to the fields of a record. -/
inductive FieldsRewrite : List Shape → List (Option Json) → List (Option Json) → Prop
  | nil : FieldsRewrite [] [] []
  | cons {s : Shape} {values : List Shape} {x y : Option Json} {xs ys : List (Option Json)}
      (h : FieldRewrites s x y) (hs : FieldsRewrite values xs ys) :
    FieldsRewrite (s :: values) (x :: xs) (y :: ys)

theorem FieldsRewrite.mapM {f g : Spellings → Option (Option Json)} {schema : List Spellings}
    {values : List Shape} (hlength : schema.length = values.length)
    (h : ∀ spellings s, (spellings, s) ∈ schema.zip values →
      Option.Rel (FieldRewrites s) (f spellings) (g spellings)) :
    Option.Rel (FieldsRewrite values) (schema.mapM f) (schema.mapM g) := by
  induction schema generalizing values with
  | nil =>
    obtain rfl := List.eq_nil_of_length_eq_zero hlength.symm
    exact .some .nil
  | cons spellings schema ih =>
    cases values with
    | nil => cases hlength
    | cons s values =>
      have hfirst := h spellings s List.mem_cons_self
      have hothers := ih (Nat.succ.inj hlength) fun spellings s hmem =>
        h spellings s (List.mem_cons_of_mem _ hmem)
      rw [List.mapM_cons, List.mapM_cons]
      generalize f spellings = x?, g spellings = y? at hfirst
      generalize schema.mapM f = xs?, schema.mapM g = ys? at hothers
      cases hfirst with
      | none => exact .none
      | some hfirst =>
        cases hothers with
        | none => exact .none
        | some hothers => exact .some (.cons hfirst hothers)

/-- No name spells two fields. -/
def Apart (schema : List Spellings) : Prop :=
  schema.Pairwise fun f g => ∀ name ∈ f, name ∉ g

instance (schema : List Spellings) : Decidable (Apart schema) :=
  inferInstanceAs (Decidable (schema.Pairwise fun f g => ∀ name ∈ f, name ∉ g))

theorem Apart.eq_of_mem {schema : List Spellings} {values : List Shape} (h : Apart schema)
    {f g : Spellings} {s t : Shape} (hf : (f, s) ∈ schema.zip values)
    (hg : (g, t) ∈ schema.zip values) {name : String} (hnf : name ∈ f) (hng : name ∈ g) :
    f = g ∧ s = t := by
  induction schema generalizing values with
  | nil => cases hf
  | cons e schema ih =>
    cases values with
    | nil => cases hf
    | cons u values =>
      obtain ⟨he, hschema⟩ := List.pairwise_cons.1 h
      rw [List.zip_cons_cons, List.mem_cons, Prod.mk.injEq] at hf hg
      obtain ⟨rfl, rfl⟩ | hf := hf
      · obtain ⟨rfl, rfl⟩ | hg := hg
        · exact ⟨rfl, rfl⟩
        · exact absurd hng (he g (List.of_mem_zip hg).1 name hnf)
      · obtain ⟨rfl, rfl⟩ | hg := hg
        · exact absurd hnf (he f (List.of_mem_zip hf).1 name hng)
        · exact ih hschema hf hg

theorem rel_bind_self {α β γ : Type} {R : β → γ → Prop} {f : α → Option β} {g : α → Option γ}
    (o : Option α) (h : ∀ a, Option.Rel R (f a) (g a)) : Option.Rel R (o.bind f) (o.bind g) := by
  cases o with
  | none => exact .none
  | some a => exact h a

theorem FieldRewrites.rel_self {s : Shape} (field? : Option (Option Json)) :
    Option.Rel (FieldRewrites s) field? field? := by
  cases field? with
  | none => exact .none
  | some field => exact .some (.same field)

/-- A change of one member is a change of the fields if it is one of each field. -/
theorem rel_fields?_middle {schema : List Spellings} {values : List Shape}
    (hlength : schema.length = values.length) (before after : List (Option String × Json))
    {a b : String} {v w : Json}
    (h : ∀ before after spellings s, (spellings, s) ∈ schema.zip values →
      Option.Rel (FieldRewrites s) (memberOf? spellings (before ++ (a, v) :: after))
        (memberOf? spellings (before ++ (b, w) :: after))) :
    Option.Rel (FieldsRewrite values) (fields? schema (.object (before ++ (some a, v) :: after)))
      (fields? schema (.object (before ++ (some b, w) :: after))) := by
  rw [fields?_middle, fields?_middle]
  exact rel_bind_self _ fun before => rel_bind_self _ fun after =>
    FieldsRewrite.mapM hlength (h before after)

/-- The fields of a rewritten record are the same but for rewritten values. -/
theorem rel_fields? {schema : List Spellings} {values : List Shape} (hapart : Apart schema)
    (hlength : schema.length = values.length) {v w : Json}
    (h : (Shape.record schema values).Rewrites v w) :
    Option.Rel (FieldsRewrite values) (fields? schema v) (fields? schema w) := by
  cases h with
  | @permuted _ _ ms ns hperm =>
    have hrel : Option.Rel List.Perm (namedMembers? some ms) (namedMembers? some ns) :=
      rel_mapM_of_perm hperm
    rw [fields?_object, fields?_object]
    generalize namedMembers? some ms = ms?, namedMembers? some ns = ns? at hrel
    cases hrel with
    | none => exact .none
    | some hperm =>
      refine FieldsRewrite.mapM hlength fun spellings s _ => ?_
      rw [memberOf?_of_perm hperm]
      exact FieldRewrites.rel_self _
  | @respelled _ _ spellings _ before after a b v hfield ha hb =>
    refine rel_fields?_middle hlength _ _ fun before after others s hothers => ?_
    -- Both names are spellings of the one field, and of no other.
    by_cases hmem : a ∈ others
    · obtain ⟨rfl, -⟩ := hapart.eq_of_mem hfield hothers ha hmem
      rw [memberOf?_of_mem ha, memberOf?_of_mem hb]
      exact FieldRewrites.rel_self _
    · have hnot : b ∉ others := fun hb' =>
        hmem ((hapart.eq_of_mem hfield hothers hb hb').1 ▸ ha)
      rw [memberOf?_of_notMem hmem, memberOf?_of_notMem hnot]
      exact FieldRewrites.rel_self _
  | @added _ _ before after name v hname =>
    rw [fields?_append, fields?_middle]
    refine rel_bind_self _ fun before => rel_bind_self _ fun after => ?_
    refine FieldsRewrite.mapM hlength fun spellings s hfield => ?_
    rw [memberOf?_of_notMem (hname spellings (List.of_mem_zip hfield).1)]
    exact FieldRewrites.rel_self _
  | @field _ _ spellings s before after name v w hfield hname hstep =>
    refine rel_fields?_middle hlength _ _ fun before after others t hothers => ?_
    by_cases hmem : name ∈ others
    · obtain ⟨rfl, rfl⟩ := hapart.eq_of_mem hfield hothers hname hmem
      rw [memberOf?_of_mem hname, memberOf?_of_mem hname]
      split
      · exact .some (.value hstep)
      · exact .none
    · rw [memberOf?_of_notMem hmem, memberOf?_of_notMem hmem]
      exact FieldRewrites.rel_self _
  | @unread _ _ before after name v w hname =>
    refine rel_fields?_middle hlength _ _ fun before after spellings s hfield => ?_
    have hnot := hname spellings (List.of_mem_zip hfield).1
    rw [memberOf?_of_notMem hnot, memberOf?_of_notMem hnot]
    exact FieldRewrites.rel_self _

theorem FieldRewrites.required {α : Type} {s : Shape} {value? : Json → Option α}
    (h : Respects s value?) {x y : Option Json} (hxy : FieldRewrites s x y) :
    required? value? x = required? value? y := by
  cases hxy with
  | same => rfl
  | value hstep => exact h hstep

theorem FieldRewrites.defaulted {α : Type} {s : Shape} {value? : Json → Option α}
    (h : Respects s value?) (default : α) {x y : Option Json} (hxy : FieldRewrites s x y) :
    defaulted? default value? x = defaulted? default value? y := by
  cases hxy with
  | same => rfl
  | value hstep => exact h hstep

/-- A record decodes alike if its fields do. -/
theorem respects_record {α : Type} {schema : List Spellings} {values : List Shape}
    {ofFields? : List (Option Json) → Option α} (hapart : Apart schema)
    (hlength : schema.length = values.length)
    (h : ∀ {xs ys}, FieldsRewrite values xs ys → ofFields? xs = ofFields? ys) :
    Respects (.record schema values) fun v => (fields? schema v).bind ofFields? := by
  intro v w hvw
  have hrel := rel_fields? hapart hlength hvw
  change (fields? schema v).bind ofFields? = (fields? schema w).bind ofFields?
  generalize fields? schema v = xs?, fields? schema w = ys? at hrel
  cases hrel with
  | none => rfl
  | some hfields => exact h hfields

end Shape

end SpecCoverage
