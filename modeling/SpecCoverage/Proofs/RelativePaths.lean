-- SUMMARY: Paths relative to a workspace: outputs and catalog name a file below the root alike, and a path beside the root is kept.
import SpecCoverage.Catalog
import SpecCoverage.Proofs.NormalizedPaths
import SpecCoverage.Proofs.PathParts

/-!
# Relative paths

The paths in an output are made relative to the workspace as texts, those of the catalog part by
part. For an absolute path of components both come to the same: the components below the root with a
slash between each two. A path is below the root only if its components are, so a directory whose
name goes on where that of the root ends is not taken for the root.
-/
namespace SpecCoverage

open Text

/-- The name of a file or directory in a path. -/
structure Path.IsComponent (t : String) : Prop where
  nonempty : t ≠ ""
  not_here : t ≠ "."
  not_up : t ≠ ".."
  not_slash : '/' ∉ t.toList
  not_backslash : '\\' ∉ t.toList

instance (t : String) : Decidable (Path.IsComponent t) :=
  decidable_of_iff (t ≠ "" ∧ t ≠ "." ∧ t ≠ ".." ∧ '/' ∉ t.toList ∧ '\\' ∉ t.toList)
    ⟨fun ⟨h₁, h₂, h₃, h₄, h₅⟩ => ⟨h₁, h₂, h₃, h₄, h₅⟩,
      fun ⟨h₁, h₂, h₃, h₄, h₅⟩ => ⟨h₁, h₂, h₃, h₄, h₅⟩⟩

namespace Address

/-- Components of which the last does not end with a blank. -/
structure IsPlain (a : Address) : Prop where
  component : ∀ t ∈ a, Path.IsComponent t
  closed : ∀ t ∈ a.getLast?, ∀ ch ∈ t.toList.getLast?, isBlank ch = false

instance (a : Address) : Decidable a.IsPlain :=
  decidable_of_iff ((∀ t ∈ a, Path.IsComponent t) ∧
      a.getLast?.all (fun t => t.toList.getLast?.all (!isBlank ·)) = true)
    ⟨fun ⟨h₁, h₂⟩ => ⟨h₁, by simpa [Option.all_eq_true] using h₂⟩,
      fun ⟨h₁, h₂⟩ => ⟨h₁, by simpa [Option.all_eq_true] using h₂⟩⟩

/-- The text is the path of the address, with any slashes behind it. -/
def Spells (a : Address) (text : String) : Prop :=
  ∃ n, text = a.path.text ++ String.ofList (List.replicate n '/')

/-- The names of an address, each behind a slash. -/
def slashed (a : Address) : List Char :=
  a.flatMap fun t => '/' :: t.toList

variable {a b : Address}

/-! ## Texts of paths -/

theorem slashed_append : slashed (a ++ b) = a.slashed ++ b.slashed :=
  List.flatMap_append

theorem slashed_eq_cons (hne : a ≠ []) : a.slashed = '/' :: ("/".intercalate a).toList := by
  induction a with
  | nil => exact absurd rfl hne
  | cons t a ih =>
    cases a with
    | nil => simp [slashed]
    | cons u a =>
      have hrest : slashed (u :: a) = '/' :: ("/".intercalate (u :: a)).toList := ih (by simp)
      rw [slashed, List.flatMap_cons, ← slashed, hrest, String.intercalate_cons_cons]
      simp

theorem path_toList (hne : a ≠ []) : a.path.text.toList = a.slashed := by
  rw [slashed_eq_cons hne, path, String.toList_append]
  rfl

/-- Cut at its slashes, the path of an address falls into the names of the address. -/
theorem splitAtChars_append_slashed (s : List Char) (hslash : ∀ t ∈ a, '/' ∉ t.toList) :
    splitAtChars (· == '/') (s ++ a.slashed) =
      splitAtChars (· == '/') s ++ a.map String.toList := by
  induction a generalizing s with
  | nil => simp [slashed]
  | cons t a ih =>
    obtain ⟨ht, ha⟩ := List.forall_mem_cons.1 hslash
    have hsingle : splitAtChars (· == '/') t.toList = [t.toList] := by
      refine splitAtChars_of_forall_not fun c hc => ?_
      rw [beq_eq_false_iff_ne]
      rintro rfl
      exact ht hc
    rw [slashed, List.flatMap_cons, ← slashed, List.cons_append, splitAtChars_append_sep _ _ rfl,
      ih _ ha, hsingle, List.map_cons]
    rfl

theorem splitAtChars_slashed (hslash : ∀ t ∈ a, '/' ∉ t.toList) :
    splitAtChars (· == '/') a.slashed = [] :: a.map String.toList :=
  splitAtChars_append_slashed [] hslash

/-- A text that goes on behind a slash where the path of `a` ends names something below `a`. -/
theorem exists_eq_append (ha : ∀ t ∈ a, '/' ∉ t.toList) (hb : ∀ t ∈ b, '/' ∉ t.toList)
    {rest : List Char} (h : b.slashed = a.slashed ++ '/' :: rest) : ∃ c, c ≠ [] ∧ b = a ++ c := by
  have hsplit := congrArg (splitAtChars (· == '/')) h
  rw [splitAtChars_append_sep _ _ rfl, splitAtChars_slashed ha, splitAtChars_slashed hb,
    List.cons_append, List.cons.injEq] at hsplit
  obtain ⟨front, c, rfl, hfront, hc⟩ := List.map_eq_append_iff.1 hsplit.2
  refine ⟨c, ?_, ?_⟩
  · rintro rfl
    exact splitAtChars_ne_nil _ rest hc.symm
  · rw [List.map_injective_iff.2 (fun _ _ => String.toList_injective) hfront]

theorem IsPlain.append (ha : ∀ t ∈ a, Path.IsComponent t) (hb : b.IsPlain) (hne : b ≠ []) :
    IsPlain (a ++ b) where
  component := by
    intro t ht
    rcases List.mem_append.1 ht with ht | ht
    · exact ha t ht
    · exact hb.component t ht
  closed := by
    rw [List.getLast?_append_of_ne_nil _ hne]
    exact hb.closed

theorem not_backslash_slashed (ha : ∀ t ∈ a, Path.IsComponent t) : '\\' ∉ a.slashed := by
  intro hmem
  obtain ⟨t, ht, hmem⟩ := List.mem_flatMap.1 hmem
  rcases List.mem_cons.1 hmem with hslash | hmem
  · exact absurd hslash (by decide)
  · exact (ha t ht).not_backslash hmem

/-- The last character of a path is that of its last name. -/
theorem getLast?_slashed (ha : ∀ t ∈ a, Path.IsComponent t) (hne : a ≠ []) {c : Char}
    (hc : c ∈ a.slashed.getLast?) : ∃ t ∈ a.getLast?, c ∈ t.toList.getLast? := by
  obtain ⟨front, t, rfl⟩ := (List.eq_nil_or_concat' a).resolve_left hne
  have ht : t.toList ≠ [] := by simpa using (ha t (by simp)).nonempty
  refine ⟨t, by simp, ?_⟩
  rw [slashed_append, slashed, slashed, List.flatMap_singleton,
    List.getLast?_append_of_ne_nil _ (by simp), List.getLast?_cons_of_ne_nil ht] at hc
  exact hc

end Address

theorem slashes_of_not_mem {s : List Char} (h : '\\' ∉ s) : slashes s = s := by
  have hself : ∀ c ∈ s, (if c = '\\' then '/' else c) = id c := by
    intro c hc
    refine if_neg ?_
    rintro rfl
    exact h hc
  rw [slashes, List.map_congr_left hself, List.map_id]

/-! ## Paths in outputs -/

namespace OutputContext

variable {o : OutputContext} {root names : Address}

/-- The workspace root is the path of its components, whatever slashes are written behind it. -/
theorem root_eq (hne : root ≠ []) (hroot : ∀ t ∈ root, Path.IsComponent t)
    (ho : root.Spells o.workspace) : o.root = root.slashed := by
  obtain ⟨n, hn⟩ := ho
  have hfree : '\\' ∉ root.slashed ++ List.replicate n '/' := by
    intro hmem
    rcases List.mem_append.1 hmem with hmem | hmem
    · exact Address.not_backslash_slashed hroot hmem
    · exact absurd (List.eq_of_mem_replicate hmem) (by decide)
  have hlast : ∀ c ∈ root.slashed.reverse.head?, (c == '/') = false := by
    intro c hc
    rw [List.head?_reverse] at hc
    obtain ⟨t, ht, hc⟩ := Address.getLast?_slashed hroot hne hc
    rw [beq_eq_false_iff_ne]
    rintro rfl
    exact (hroot t (List.mem_of_getLast? ht)).not_slash (List.mem_of_getLast? hc)
  rw [OutputContext.root, hn, String.toList_append, Address.path_toList hne, String.toList_ofList,
    slashes_of_not_mem hfree, List.reverse_append, List.reverse_replicate,
    List.dropWhile_append_of_pos fun c hc => by rw [List.eq_of_mem_replicate hc]; rfl]
  cases hreverse : root.slashed.reverse with
  | nil => rw [List.reverse_eq_nil_iff.1 hreverse]; rfl
  | cons c cs =>
    rw [hreverse] at hlast
    rw [List.dropWhile_cons_of_neg (by simpa using hlast c rfl), ← hreverse, List.reverse_reverse]

/-- The path of plain components is already written as it is compared. -/
theorem slashes_trim_path (hne : names ≠ []) (h : names.IsPlain) :
    slashes (trim names.path.text.toList) = names.slashed := by
  have htrim : trim names.slashed = names.slashed := by
    have hcons := Address.slashed_eq_cons hne
    obtain ⟨front, c, hc⟩ := (List.eq_nil_or_concat' names.slashed).resolve_left
      (by rw [hcons]; exact List.cons_ne_nil _ _)
    obtain ⟨t, ht, hlast⟩ := Address.getLast?_slashed h.component hne (c := c) (by simp [hc])
    rw [hcons, trim_cons_of_not_isBlank _ (by decide), ← hcons, hc,
      trimEnd_concat_of_not_isBlank _ (h.closed t ht c hlast)]
  rw [Address.path_toList hne, htrim, slashes_of_not_mem (Address.not_backslash_slashed h.component)]

/-- No dot stands in front of components. -/
theorem startsWith_dot_intercalate (hne : names ≠ []) (h : ∀ t ∈ names, Path.IsComponent t) :
    startsWith "./".toList ("/".intercalate names).toList = false := by
  obtain ⟨t, ts, rfl⟩ := List.exists_cons_of_ne_nil hne
  have ht : Path.IsComponent t := h t (by simp)
  have htext : ("/".intercalate (t :: ts)).toList = t.toList ++ Address.slashed ts := by
    refine List.cons_injective (Eq.trans (Address.slashed_eq_cons hne).symm ?_)
    rw [Address.slashed, List.flatMap_cons, ← Address.slashed, List.cons_append]
  rw [Bool.eq_false_iff, Ne, startsWith_iff, htext]
  -- The dot would be the first name, or the slash would stand in it.
  intro hbegins
  have hbegins : ['.', '/'] <+: t.toList ++ Address.slashed ts := hbegins
  have htoList : t.toList ≠ [] := by simpa using ht.nonempty
  obtain ⟨c, cs, hcs⟩ := List.exists_cons_of_ne_nil htoList
  rw [hcs, List.cons_append, List.cons_prefix_cons] at hbegins
  obtain ⟨rfl, hslash⟩ := hbegins
  cases cs with
  | nil => exact ht.not_here (String.toList_inj.1 hcs)
  | cons d ds =>
    rw [List.cons_append, List.cons_prefix_cons] at hslash
    refine ht.not_slash ?_
    rw [hcs, ← hslash.1]
    simp

/-- A path below the root is made relative by leaving out the components of the root. -/
theorem relativize_below (hne : root ≠ []) (hroot : ∀ t ∈ root, Path.IsComponent t)
    (ho : root.Spells o.workspace) (hnames : names ≠ []) (h : names.IsPlain) :
    o.relativize (Address.path (root ++ names)).text = "/".intercalate names := by
  have hwritten := slashes_trim_path (List.append_ne_nil_of_left_ne_nil hne names)
    (Address.IsPlain.append hroot h hnames)
  have hfull : o.root.isEmpty = false := by
    rw [root_eq hne hroot ho, Address.slashed_eq_cons hne]
    rfl
  have hlead : dropLead? (o.root ++ ['/']) (Address.slashed (root ++ names)) =
      some ("/".intercalate names).toList := by
    rw [dropLead?_eq_some_iff, Address.slashed_append, root_eq hne hroot ho,
      Address.slashed_eq_cons hnames, List.append_assoc, List.singleton_append]
  simp only [relativize, hwritten, hfull, hlead, Bool.false_eq_true, if_false, Option.getD_some]
  rw [dropLeads_eq_self (startsWith_dot_intercalate hnames h.component), String.ofList_toList]

/-- The root and a slash do not stand in front of the path of what is not below the root. -/
theorem dropLead?_outside (hne : root ≠ []) (hroot : ∀ t ∈ root, Path.IsComponent t)
    (ho : root.Spells o.workspace) (h : names.IsPlain)
    (hout : ∀ rest, rest ≠ [] → names ≠ root ++ rest) :
    dropLead? (o.root ++ ['/']) names.path.text.toList = none := by
  rw [dropLead?_eq_none_iff, root_eq hne hroot ho]
  rintro ⟨rest, hrest⟩
  rw [List.append_assoc, List.singleton_append] at hrest
  by_cases hnames : names = []
  · rw [hnames, Address.slashed_eq_cons hne] at hrest
    have hlength := congrArg List.length hrest
    simp [Address.path] at hlength
  · rw [Address.path_toList hnames] at hrest
    obtain ⟨below, hbelow, heq⟩ := Address.exists_eq_append (fun t ht => (hroot t ht).not_slash)
      (fun t ht => (h.component t ht).not_slash) hrest.symm
    exact hout below hbelow heq

/-- A path that is not below the root is kept. -/
theorem relativize_outside (hne : root ≠ []) (hroot : ∀ t ∈ root, Path.IsComponent t)
    (ho : root.Spells o.workspace) (h : names.IsPlain)
    (hout : ∀ rest, rest ≠ [] → names ≠ root ++ rest) :
    o.relativize names.path.text = names.path.text := by
  have hwritten : slashes (trim names.path.text.toList) = names.path.text.toList := by
    by_cases hnames : names = []
    · rw [hnames]
      decide
    · rw [slashes_trim_path hnames h, Address.path_toList hnames]
  have hfront : startsWith "./".toList names.path.text.toList = false := by
    rw [Address.path, String.toList_append]
    rfl
  simp only [relativize, hwritten, dropLead?_outside hne hroot ho h hout, Option.getD_none, ite_self]
  rw [dropLeads_eq_self hfront, String.ofList_toList]

end OutputContext

/-! ## Paths in the catalog -/

namespace Path

variable {root names : Address}

theorem dropParts?_append (ps qs : List Part) : dropParts? ps (ps ++ qs) = some qs := by
  induction ps with
  | nil => rfl
  | cons p ps ih => rw [List.cons_append, dropParts?, if_pos rfl, ih]

/-- What the path of an address names are the names of the address. -/
theorem inner_path (hne : names ≠ []) (h : ∀ t ∈ names, IsComponent t) :
    names.path.inner = names.map .name := by
  have hname : ∀ t ∈ names, partOfPiece? t = some (.name t) := by
    intro t ht
    have hcomponent := h t ht
    simp [partOfPiece?, hcomponent.nonempty, hcomponent.not_here, hcomponent.not_up]
  have hpieces : names.path.pieces = "" :: names := by
    have hofList : String.ofList ∘ String.toList = id := funext fun _ => String.ofList_toList
    rw [pieces, Address.path_toList hne,
      Address.splitAtChars_slashed fun t ht => (h t ht).not_slash, List.map_cons, List.map_map,
      hofList, List.map_id, String.ofList_nil]
  rw [inner, hpieces, List.filterMap_cons_none rfl, List.filterMap_congr hname,
    ← List.filterMap_eq_map]
  rfl

/-- Slashes behind a path are no parts of it. -/
theorem parts_of_spells {text : String} (hne : names ≠ []) (h : ∀ t ∈ names, IsComponent t)
    (htext : names.Spells text) : parts ⟨text⟩ = .root :: names.map .name := by
  have hkeeps : isAbsolute ⟨text⟩ = true ∧ inner ⟨text⟩ = names.map .name := by
    obtain ⟨n, rfl⟩ := htext
    induction n with
    | zero =>
      rw [List.replicate_zero, String.ofList_nil, String.append_empty]
      exact ⟨Disk.current_isAbsolute names, inner_path hne h⟩
    | succ n ih =>
      have hone : names.path.text ++ String.ofList (List.replicate (n + 1) '/') =
          names.path.text ++ String.ofList (List.replicate n '/') ++ "/" := by
        rw [← String.toList_inj]
        simp [List.replicate_succ']
      have hclose := (Respells.close (names.path.text ++ String.ofList (List.replicate n '/'))
        (by simp [Address.path])).keeps
      rw [hone]
      exact ⟨hclose.1.symm.trans ih.1, hclose.2.1.symm.trans ih.2⟩
  rw [parts_of_isAbsolute hkeeps.1, hkeeps.2]

end Path

namespace Catalog

variable {c : Catalog} {root names : Address}

/-- The catalog shows a file below its root by the components that lead there. -/
theorem relative_below (hne : root ≠ []) (hroot : ∀ t ∈ root, Path.IsComponent t)
    (hc : root.Spells c.root.text) (h : ∀ t ∈ names, Path.IsComponent t) :
    c.relative (Address.path (root ++ names)) = "/".intercalate names := by
  have hall : ∀ t ∈ root ++ names, Path.IsComponent t := by
    intro t ht
    rcases List.mem_append.1 ht with ht | ht
    · exact hroot t ht
    · exact h t ht
  have hself : Address.Spells (root ++ names) (Address.path (root ++ names)).text :=
    ⟨0, by simp⟩
  have hpath := Path.parts_of_spells (List.append_ne_nil_of_left_ne_nil hne names) hall hself
  have hbelow : c.root.below? (Address.path (root ++ names)) = some (names.map .name) := by
    rw [Path.below?, hpath, Path.parts_of_spells hne hroot hc, List.map_append, ← List.cons_append,
      Path.dropParts?_append]
  have habsolute : (Address.path (root ++ names)).isAbsolute = true := Disk.current_isAbsolute _
  have hnames : ((names.map Path.Part.name).filter (· ≠ .here)).map Path.Part.text = names := by
    rw [List.filter_eq_self.2 (by simp), List.map_map]
    exact List.map_id names
  rw [relative, Path.relativeTo, if_pos habsolute, hbelow, Option.getD_some, Path.slashed, hnames]

/-- Outputs and catalog name a file below the root of a workspace alike, by the components that lead
there; and a path that is not below the root component by component is kept, even if the root is a
prefix of its text. -/
theorem relative_eq_relativize {o : OutputContext} (hne : root ≠ [])
    (hroot : ∀ t ∈ root, Path.IsComponent t) (hc : root.Spells c.root.text)
    (ho : root.Spells o.workspace) :
    (∀ names : Address, names ≠ [] → names.IsPlain →
      o.relativize (Address.path (root ++ names)).text = "/".intercalate names ∧
      c.relative (Address.path (root ++ names)) = "/".intercalate names) ∧
    ∀ names : Address, names.IsPlain → (∀ rest, rest ≠ [] → names ≠ root ++ rest) →
      o.relativize names.path.text = names.path.text := by
  constructor
  · intro names hnames h
    exact ⟨OutputContext.relativize_below hne hroot ho hnames h,
      relative_below hne hroot hc h.component⟩
  · intro names h hout
    exact OutputContext.relativize_outside hne hroot ho h hout

theorem relative_eq_relativize_work :
    (∀ t ∈ ["work"], Path.IsComponent t) ∧
      Address.Spells ["work"] "/work/" ∧ Address.Spells ["work"] "/work//" ∧
      Address.IsPlain ["specs", "a b.feature"] ∧ Address.IsPlain ["work2", "a.feature"] ∧
      (∀ rest, rest ≠ [] → (["work2", "a.feature"] : Address) ≠ ["work"] ++ rest) ∧
      (OutputContext.mk "/work//" .default).relativize "/work/specs/a b.feature" =
        "specs/a b.feature" ∧
      (start ⟨"/work/"⟩ .default).relative ⟨"/work/specs/a b.feature"⟩ = "specs/a b.feature" ∧
      (OutputContext.mk "/work//" .default).relativize "/work2/a.feature" = "/work2/a.feature" := by
  have hroot : ∀ t ∈ ["work"], Path.IsComponent t := by decide
  have hc : Address.Spells ["work"] "/work/" := ⟨1, by decide⟩
  have ho : Address.Spells ["work"] "/work//" := ⟨2, by decide⟩
  have hbelow : Address.IsPlain ["specs", "a b.feature"] := by decide
  have hbeside : Address.IsPlain ["work2", "a.feature"] := by decide
  have hout : ∀ rest, rest ≠ [] → (["work2", "a.feature"] : Address) ≠ ["work"] ++ rest := by
    simp
  have hbelowText : Address.path (["work"] ++ ["specs", "a b.feature"]) =
      ⟨"/work/specs/a b.feature"⟩ := by decide
  have hbesideText : Address.path ["work2", "a.feature"] = ⟨"/work2/a.feature"⟩ := by decide
  have hshown : "/".intercalate ["specs", "a b.feature"] = "specs/a b.feature" := by decide
  obtain ⟨hinside, houtside⟩ := relative_eq_relativize (c := start ⟨"/work/"⟩ .default)
    (o := OutputContext.mk "/work//" .default) (List.cons_ne_nil _ _) hroot hc ho
  have halike := hinside _ (List.cons_ne_nil _ _) hbelow
  have hkept := houtside _ hbeside hout
  rw [hbelowText, hshown] at halike
  rw [hbesideText] at hkept
  exact ⟨hroot, hc, ho, hbelow, hbeside, hout, halike.1, halike.2, hkept⟩

end Catalog

end SpecCoverage
