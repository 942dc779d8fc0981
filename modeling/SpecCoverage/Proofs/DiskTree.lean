-- SUMMARY: Disks that are trees of directories: entering names, and the files below a directory.
import Mathlib.Data.List.Nodup
import SpecCoverage.Proofs.Walks

/-!
# Trees of directories

On a disk that is a tree, each address stands for one node and what is above a node is a directory.
So the names from a directory to a file lead there, and the files below a directory are those that
its path, continued by names, leads to.
-/
namespace SpecCoverage.Disk

/-- A name in a directory. -/
structure IsName (t : String) : Prop where
  nonempty : t ≠ ""
  not_here : t ≠ "."
  not_up : t ≠ ".."
  not_slash : '/' ∉ t.toList
  endless : '\x00' ∉ t.toList
  short : t.utf8ByteSize ≤ nameLimit

instance (t : String) : Decidable (IsName t) :=
  decidable_of_iff (t ≠ "" ∧ t ≠ "." ∧ t ≠ ".." ∧ '/' ∉ t.toList ∧ '\x00' ∉ t.toList ∧
      t.utf8ByteSize ≤ nameLimit)
    ⟨fun ⟨h₁, h₂, h₃, h₄, h₅, h₆⟩ => ⟨h₁, h₂, h₃, h₄, h₅, h₆⟩,
      fun ⟨h₁, h₂, h₃, h₄, h₅, h₆⟩ => ⟨h₁, h₂, h₃, h₄, h₅, h₆⟩⟩

theorem IsName.partOfPiece? {t : String} (h : IsName t) :
    Path.partOfPiece? t = some (.name t) := by
  simp [Path.partOfPiece?, h.nonempty, h.not_here, h.not_up]

theorem IsName.ofPiece {t : String} (h : IsName t) : Step.ofPiece t = .enter t := by
  simp [Step.ofPiece, h.nonempty, h.not_here, h.not_up]

/-- A disk whose nodes have names, an address each, and directories above them. -/
structure IsTree (d : Disk) : Prop where
  nodup : (d.nodes.map (·.1)).Nodup
  names : ∀ e ∈ d.nodes, e.1 ≠ [] ∧ ∀ t ∈ e.1, IsName t
  parents : ∀ e ∈ d.nodes, (d.node? e.1.dropLast).any (·.isDirectory) = true

instance (d : Disk) : Decidable d.IsTree :=
  decidable_of_iff ((d.nodes.map (·.1)).Nodup ∧
      (∀ e ∈ d.nodes, e.1 ≠ [] ∧ ∀ t ∈ e.1, IsName t) ∧
        ∀ e ∈ d.nodes, (d.node? e.1.dropLast).any (·.isDirectory) = true)
    ⟨fun ⟨h₁, h₂, h₃⟩ => ⟨h₁, h₂, h₃⟩, fun ⟨h₁, h₂, h₃⟩ => ⟨h₁, h₂, h₃⟩⟩

variable {d : Disk} {a b : Address} {x : Node} {n : Nat}

/-! ## Nodes of a tree -/

/-- In a list with one entry for each key, looking up is membership. -/
theorem lookup_eq_some_iff {κ α : Type} [BEq κ] [LawfulBEq κ] {es : List (κ × α)} {k : κ}
    {v : α} (hnodup : (es.map (·.1)).Nodup) : es.lookup k = some v ↔ (k, v) ∈ es := by
  induction es with
  | nil => simp
  | cons e es ih =>
    obtain ⟨k', w⟩ := e
    rw [List.map_cons, List.nodup_cons] at hnodup
    rw [List.lookup_cons, List.mem_cons]
    by_cases hk : k = k'
    · subst hk
      have hnot : (k, v) ∉ es := fun hmem => hnodup.1 (List.mem_map_of_mem (f := (·.1)) hmem)
      simp [hnot, eq_comm]
    · have hne : (k == k') = false := by simpa using hk
      simp [hne, hk, ih hnodup.2]

namespace IsTree

theorem node?_eq_some_iff (h : d.IsTree) (ha : a ≠ []) :
    d.node? a = some x ↔ (a, x) ∈ d.nodes := by
  rw [node?, if_neg ha]
  exact lookup_eq_some_iff h.nodup

theorem names_of_node? (h : d.IsTree) (hx : d.node? a = some x) : ∀ t ∈ a, IsName t := by
  by_cases ha : a = []
  · simp [ha]
  · exact (h.names _ ((h.node?_eq_some_iff ha).1 hx)).2

/-- What is above a node is a directory. -/
theorem directory_above (h : d.IsTree) {names : List String} (hnames : names ≠ [])
    (hx : d.node? (a ++ names) = some x) : ∃ t, d.node? a = some (.directory t) := by
  induction names using List.reverseRecOn generalizing x with
  | nil => exact absurd rfl hnames
  | append_singleton names name ih =>
    rw [← List.append_assoc] at hx
    have hparent := h.parents _ ((h.node?_eq_some_iff (by simp)).1 hx)
    simp only [List.dropLast_concat] at hparent
    cases hy : d.node? (a ++ names) with
    | none => simp [hy] at hparent
    | some y =>
      cases y with
      | file | link => simp [hy, Node.isDirectory] at hparent
      | directory t =>
        by_cases hempty : names = []
        · rw [hempty, List.append_nil] at hy
          exact ⟨t, hy⟩
        · exact ih hempty hy

/-- Names lead from a directory to what stands under them. -/
theorem leads (h : d.IsTree) {names : List String} (hx : d.node? (a ++ names) = some x)
    (hlink : ∀ target, x ≠ .link target) : Leads d n a (names.map Step.enter) (a ++ names) x := by
  induction names generalizing a with
  | nil =>
    rw [List.append_nil] at hx ⊢
    exact .here hx
  | cons name names ih =>
    obtain ⟨t, hdir⟩ := h.directory_above (List.cons_ne_nil _ _) hx
    have hname := h.names_of_node? hx name (by simp)
    rw [List.append_cons] at hx ⊢
    have hnext : ∃ y, d.node? (a ++ [name]) = some y ∧ ∀ target, y ≠ .link target := by
      by_cases hempty : names = []
      · rw [hempty, List.append_nil] at hx
        exact ⟨x, hx, hlink⟩
      · obtain ⟨t, hdir⟩ := h.directory_above hempty hx
        exact ⟨_, hdir, by simp⟩
    obtain ⟨y, hy, hylink⟩ := hnext
    exact .enter hdir hname.short hy hylink (ih hx)

end IsTree

/-! ## Files below a directory -/

/-- A file that names lead to from a directory. -/
def HasFile (d : Disk) (root : Path) (names : List String) (content : ByteArray) : Prop :=
  ∃ a t m x, d.stat root = .ok (a, .directory t) ∧ d.node? (a ++ names) = some (.file content m x)

theorem HasFile.unique {root : Path} {names : List String} {content content' : ByteArray}
    (h : d.HasFile root names content) (h' : d.HasFile root names content') :
    content = content' := by
  obtain ⟨a, t, m, x, hroot, hfile⟩ := h
  obtain ⟨a', t', m', x', hroot', hfile'⟩ := h'
  rw [hroot] at hroot'
  cases hroot'
  rw [hfile] at hfile'
  cases hfile'
  rfl

theorem HasFile.names_ne_nil {root : Path} {names : List String} {content : ByteArray}
    (h : d.HasFile root names content) : names ≠ [] := by
  obtain ⟨a, t, m, x, hroot, hfile⟩ := h
  rintro rfl
  have hdir := (stat_eq_ok_iff.1 hroot).2.node?_eq
  rw [List.append_nil, hdir] at hfile
  cases hfile

theorem HasFile.names (htree : d.IsTree) {root : Path} {names : List String} {content : ByteArray}
    (h : d.HasFile root names content) : ∀ t ∈ names, IsName t := by
  obtain ⟨a, t, m, x, hroot, hfile⟩ := h
  intro t ht
  exact htree.names_of_node? hfile t (List.mem_append_right a ht)

theorem mem_below {names : List String} :
    (names, x) ∈ d.below a ↔ names ≠ [] ∧ (a ++ names, x) ∈ d.nodes := by
  unfold below
  rw [List.mem_filterMap]
  constructor
  · rintro ⟨⟨b, y⟩, hmem, hsome⟩
    simp only [Bool.and_eq_true, decide_eq_true_eq, Option.ite_none_right_eq_some, Option.some.injEq,
      Prod.mk.injEq] at hsome
    obtain ⟨⟨⟨names', rfl⟩, hne⟩, hnames, rfl⟩ := hsome
    rw [List.drop_left] at hnames
    subst hnames
    refine ⟨?_, hmem⟩
    rintro rfl
    exact hne (by simp)
  · rintro ⟨hne, hmem⟩
    refine ⟨_, hmem, ?_⟩
    simp [hne]

theorem IsTree.mem_below_iff (htree : d.IsTree) {names : List String} :
    (names, x) ∈ d.below a ↔ names ≠ [] ∧ d.node? (a ++ names) = some x := by
  rw [mem_below]
  refine and_congr_right fun hne => ?_
  rw [htree.node?_eq_some_iff (by simp [hne])]

theorem mem_filesBelow (htree : d.IsTree) {root : Path} {names : List String} :
    names ∈ (d.filesBelow root).map (·.1) ↔ ∃ content, d.HasFile root names content := by
  unfold filesBelow
  constructor
  · intro hmem
    split at hmem
    · rename_i a t hroot
      obtain ⟨⟨names', m⟩, hfile, rfl⟩ := List.mem_map.1 hmem
      obtain ⟨⟨names, y⟩, hbelow, hsome⟩ := List.mem_filterMap.1 hfile
      obtain ⟨-, hnode⟩ := htree.mem_below_iff.1 hbelow
      cases y with
      | file content m x =>
        cases hsome
        exact ⟨content, a, t, m, x, hroot, hnode⟩
      | directory | link => cases hsome
    · cases hmem
  · rintro ⟨content, hfile⟩
    have hne := hfile.names_ne_nil
    obtain ⟨a, t, m, x, hroot, hnode⟩ := hfile
    have hbelow := htree.mem_below_iff.2 ⟨hne, hnode⟩
    simp only [hroot]
    exact List.mem_map.2 ⟨(names, m), List.mem_filterMap.2 ⟨_, hbelow, rfl⟩, rfl⟩

theorem filesBelow_nodup (htree : d.IsTree) (root : Path) :
    ((d.filesBelow root).map (·.1)).Nodup := by
  unfold filesBelow
  split
  · rename_i a t hroot
    -- Different addresses below `a` are `a` and different names.
    refine List.pairwise_map.2 (List.Pairwise.filterMap _ ?_
      (List.Pairwise.filterMap (S := fun e e' : List String × Node => e.1 ≠ e'.1) _ ?_
        (List.pairwise_map.1 htree.nodup)))
    · rintro ⟨names, y⟩ ⟨names', y'⟩ hne e he e' he'
      cases y with
      | file =>
        cases y' with
        | file =>
          cases he
          cases he'
          exact hne
        | directory | link => cases he'
      | directory | link => cases he
    · rintro ⟨b, y⟩ ⟨b', y'⟩ hne e he e' he' heq
      simp only [Bool.and_eq_true, decide_eq_true_eq, Option.ite_none_right_eq_some,
        Option.some.injEq] at he he'
      obtain ⟨⟨⟨names, rfl⟩, -⟩, rfl⟩ := he
      obtain ⟨⟨⟨names', rfl⟩, -⟩, rfl⟩ := he'
      simp only [List.drop_left] at heq
      exact hne (by rw [heq])
  · exact .nil

/-! ## Paths of files -/

theorem pathBelow_follows {root : Path} {names : List String} (hroot : Follows root)
    (hnames : ∀ t ∈ names, IsName t)
    (hshort : (pathBelow root names).text.utf8ByteSize < pathLimit) :
    Follows (pathBelow root names) where
  endless := by
    have hslash : '\x00' ≠ '/' := by decide
    have hjoin {p : Path} {t : String} (hp : '\x00' ∉ p.text.toList) (hne : p.text ≠ "")
        (ht : IsName t) : '\x00' ∉ (p / ⟨t⟩).text.toList := by
      have hend := ht.endless
      rcases Path.join_cases hne (Path.isAbsolute_of_not_mem ht.not_slash) with
        ⟨a, rfl, heq⟩ | ⟨-, heq⟩
      · rw [heq]
        simp_all
      · rw [heq]
        simp_all
    have hbelow (names : List String) (hnames : ∀ t ∈ names, IsName t) {p : Path}
        (hp : '\x00' ∉ p.text.toList) (hne : p.text ≠ "") :
        '\x00' ∉ (pathBelow p names).text.toList := by
      induction names generalizing p with
      | nil => exact hp
      | cons t names ih =>
        obtain ⟨ht, hnames⟩ := List.forall_mem_cons.1 hnames
        exact ih hnames (hjoin hp hne ht)
          (Path.join_text_ne_empty hne (Path.isAbsolute_of_not_mem ht.not_slash))
    exact hbelow names hnames hroot.endless hroot.nonempty
  nonempty := pathBelow_text_ne_empty hroot.nonempty fun t ht => (hnames t ht).not_slash
  short := hshort

/-- Names below a directory lead to what stands there as long as the path is short. -/
theorem IsTree.stat_pathBelow (htree : d.IsTree) {root : Path} {names : List String} {t : Time}
    (hroot : d.stat root = .ok (a, .directory t)) (hnode : d.node? (a ++ names) = some x)
    (hlink : ∀ target, x ≠ .link target)
    (hshort : (pathBelow root names).text.utf8ByteSize < pathLimit) :
    d.stat (pathBelow root names) = .ok (a ++ names, x) := by
  have hnames : ∀ t ∈ names, IsName t := fun t ht =>
    htree.names_of_node? hnode t (List.mem_append_right a ht)
  obtain ⟨hfollows, hleads⟩ := stat_eq_ok_iff.1 hroot
  have hslash : ∀ t ∈ names, '/' ∉ t.toList := fun t ht => (hnames t ht).not_slash
  have hsteps : names.map Step.ofPiece = names.map Step.enter :=
    List.map_congr_left fun t ht => (hnames t ht).ofPiece
  have horigin : origin d.current (pathBelow root names) = origin d.current root := by
    rw [origin, origin, isAbsolute_pathBelow hfollows.nonempty hslash]
  have hway := hleads.append fun m => htree.leads (n := m) hnode hlink
  rw [← hsteps, ← horigin] at hway
  exact stat_eq_ok_iff.2 ⟨pathBelow_follows hfollows hnames hshort,
    hway.thins (thins_pathBelow hfollows.nonempty hslash)⟩

/-- The path of a file leads to it as long as it is short. -/
theorem HasFile.read_eq (htree : d.IsTree) {root : Path} {names : List String}
    {content : ByteArray} (h : d.HasFile root names content)
    (hshort : (pathBelow root names).text.utf8ByteSize < pathLimit) :
    d.read (pathBelow root names) = .ok content := by
  obtain ⟨a, t, m, x, hroot, hnode⟩ := h
  rw [read, htree.stat_pathBelow hroot hnode (by simp) hshort]

theorem read_of_not_short {p : Path} (hlong : ¬ p.text.utf8ByteSize < pathLimit)
    {content : ByteArray} : d.read p ≠ .ok content := by
  intro hread
  unfold read at hread
  split at hread
  · rename_i hstat
    exact hlong (stat_eq_ok_iff.1 hstat).1.short
  · cases hread
  · cases hread

/-! ## Disks with other files -/

section

variable {d' : Disk}

theorem Leads.eq_of_file {ss : List Step} {y : Node} (h : Leads d n a ss b x)
    (hy : d.node? a = some y) (hfile : y.isFile = true) : x = y := by
  cases y with
  | directory | link => cases hfile
  | file content m e =>
    cases h with
    | here hnode => exact Option.some.inj (hnode.symm.trans hy)
    | stay hdir | up hdir | enter hdir | follow hdir =>
      rw [hy] at hdir
      cases hdir

/-- The way to a directory is there on each disk with the same directories and links. -/
theorem Leads.mono (hnodes : ∀ c y, d.node? c = some y → y.isFile = false → d'.node? c = some y)
    {ss : List Step} (h : Leads d n a ss b x) (hx : x.isFile = false) : Leads d' n a ss b x := by
  induction h with
  | here hnode => exact .here (hnodes _ _ hnode hx)
  | stay hdir hs _ ih => exact .stay (hnodes _ _ hdir rfl) hs (ih hx)
  | up hdir _ ih => exact .up (hnodes _ _ hdir rfl) (ih hx)
  | @enter _ _ _ _ _ _ y _ hdir hname hnode hlink hway ih =>
    have hy : y.isFile = false := by
      by_contra hfile
      obtain rfl := hway.eq_of_file hnode (by simpa using hfile)
      exact hfile hx
    exact .enter (hnodes _ _ hdir rfl) hname (hnodes _ _ hnode hy) hlink (ih hx)
  | follow hdir hname hnode _ ih =>
    exact .follow (hnodes _ _ hdir rfl) hname (hnodes _ _ hnode rfl) (ih hx)

theorem HasFile.mono {root : Path} {names : List String} {content : ByteArray}
    (h : d.HasFile root names content) (hcurrent : d'.current = d.current)
    (hnodes : ∀ c y, d.node? c = some y → y.isFile = false → d'.node? c = some y)
    (hfiles : ∀ c m e, d.node? c = some (.file content m e) →
      d'.node? c = some (.file content m e)) : d'.HasFile root names content := by
  obtain ⟨a, t, m, e, hroot, hfile⟩ := h
  obtain ⟨hfollows, hway⟩ := stat_eq_ok_iff.1 hroot
  have hway' := hway.mono hnodes rfl
  rw [← hcurrent] at hway'
  exact ⟨a, t, m, e, stat_eq_ok_iff.2 ⟨hfollows, hway'⟩, hfiles _ _ _ hfile⟩

end

/-! ### The nodes in another order -/

theorem IsTree.node?_of_perm (h : d.IsTree) {ns : List (Address × Node)} (hperm : ns.Perm d.nodes)
    (a : Address) : ({ d with nodes := ns } : Disk).node? a = d.node? a := by
  have hnodup : (ns.map (·.1)).Nodup := (hperm.map (·.1)).nodup_iff.2 h.nodup
  unfold node?
  split
  · rfl
  · refine Option.ext fun x => ?_
    rw [lookup_eq_some_iff hnodup, lookup_eq_some_iff h.nodup, hperm.mem_iff]

theorem IsTree.of_perm (h : d.IsTree) {ns : List (Address × Node)} (hperm : ns.Perm d.nodes) :
    ({ d with nodes := ns } : Disk).IsTree where
  nodup := (hperm.map (·.1)).nodup_iff.2 h.nodup
  names e he := h.names e (hperm.mem_iff.1 he)
  parents e he := by
    rw [h.node?_of_perm hperm]
    exact h.parents e (hperm.mem_iff.1 he)

/-! ### One file less -/

theorem lookup_filter {κ α : Type} [BEq κ] [LawfulBEq κ] (p : κ → Bool) (es : List (κ × α))
    (k : κ) : (es.filter fun e => p e.1).lookup k = if p k then es.lookup k else none := by
  induction es with
  | nil => simp
  | cons e es ih =>
    obtain ⟨k', v⟩ := e
    by_cases hk : k = k'
    · subst hk
      cases hp : p k <;> simp [hp, ih]
    · have hne : (k == k') = false := by simpa using hk
      cases hp : p k' <;> simp [hp, ih, hne, List.lookup_cons]

theorem node?_erase (hb : b ≠ []) (c : Address) :
    (d.erase b).node? c = if b <+: c then none else d.node? c := by
  unfold node? erase
  by_cases hc : c = []
  · simp [hc, hb]
  · have hfilter := lookup_filter (fun c => !decide (b <+: c)) d.nodes c
    simp only [hc, if_false]
    rw [hfilter]
    by_cases hbc : b <+: c <;> simp [hbc]

theorem IsTree.erase (h : d.IsTree) (hb : b ≠ []) : (d.erase b).IsTree where
  nodup := h.nodup.sublist (List.filter_sublist.map _)
  names e he := h.names e (List.mem_filter.1 he).1
  parents e he := by
    obtain ⟨he, hbelow⟩ := List.mem_filter.1 he
    have hparent : ¬ b <+: e.1.dropLast := by
      intro hbegins
      have := hbegins.trans (List.dropLast_prefix e.1)
      simp [this] at hbelow
    rw [node?_erase hb, if_neg hparent]
    exact h.parents e he

/-- Where a file was taken away, all else is as before. -/
theorem IsTree.node?_erase_of_file (h : d.IsTree) {content : ByteArray} {m : Time} {e : Bool}
    (hb : d.node? b = some (.file content m e)) {c : Address} (hx : d.node? c = some x)
    (hne : c ≠ b) : (d.erase b).node? c = some x := by
  have hroot : b ≠ [] := by
    rintro rfl
    simp [node?] at hb
  rw [node?_erase hroot, if_neg, hx]
  rintro ⟨names, rfl⟩
  have hnames : names ≠ [] := by
    rintro rfl
    exact hne (List.append_nil b)
  obtain ⟨t, hdir⟩ := h.directory_above hnames hx
  rw [hb] at hdir
  cases hdir

theorem node?_of_erase (hb : b ≠ []) {c : Address} (hx : (d.erase b).node? c = some x) :
    d.node? c = some x := by
  rw [node?_erase hb] at hx
  split at hx
  · cases hx
  · exact hx

end SpecCoverage.Disk
