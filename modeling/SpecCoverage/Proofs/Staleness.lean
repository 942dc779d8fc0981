-- SUMMARY: The binary is built again when it is not there or one of its inputs is later, in whatever order they are examined.
import SpecCoverage.Disk.Change
import SpecCoverage.Proofs.Timestamps
import SpecCoverage.Validator.Freshness

/-!
# Stale binaries

The inputs of the binary are the manifest and the lock file where they are there, and the files at
any depth below the source directory. Examining them one after the other up to the first that is
later than the binary tells whether there is one.
-/
namespace SpecCoverage.Freshness

/-- What the binary is built from: an address, and the time of the last change there. -/
inductive Input (d : Disk) (directory : Path) : Address → Time → Prop
  /-- A file beside the sources, which may be reached by links. -/
  | root {name : Path} {a : Address} {x : Node} {t : Time} (hname : name ∈ rootInputs)
    (hstat : d.stat (directory / name) = .ok (a, x))
    (htime : d.modified (directory / name) = .ok t) : Input d directory a t
  /-- A file below the source directory, not through links. -/
  | source {a : Address} {m t : Time} {names : List String} {content : ByteArray} {e : Bool}
    (hroot : d.stat (directory / sourceDirectory) = .ok (a, .directory m))
    (hfile : d.node? (a ++ names) = some (.file content t e)) : Input d directory (a ++ names) t

/-- There is no binary, or one of its inputs is later. -/
inductive Stale (d : Disk) (directory binary : Path) : Prop
  | missing (h : d.modified binary = .error .notFound)
  | older {a : Address} {built t : Time} (hbuilt : d.modified binary = .ok built)
    (hinput : Input d directory a t) (hlater : built < t)

/-- The times of all that is examined can be read, but for inputs beside the sources and a binary
that are not there. -/
structure Readable (d : Disk) (directory binary : Path) : Prop where
  binary : ∀ e, d.modified binary = .error e → e = .notFound
  root : ∀ name ∈ rootInputs, ∀ e, d.modified (directory / name) = .error e → e = .notFound
  sources : ∀ a m, d.stat (directory / sourceDirectory) = .ok (a, .directory m) →
    ∀ e ∈ d.below a, (∀ target, e.2 ≠ .link target) →
      ∃ t, d.modified (Disk.pathBelow (directory / sourceDirectory) e.1) = .ok t

section

variable {d : Disk} {directory binary p : Path} {built t : Time}

-- ---------------------------------------------------------------------------
-- One after the other
-- ---------------------------------------------------------------------------

/-- Among paths that can be examined or are not there, a later one is found where there is one. -/
theorem exists_anyNewer (built : Time) {ps : List Path}
    (hread : ∀ p ∈ ps, ∀ e, d.modified p = .error e → e = .notFound) :
    ∃ r, anyNewer d built ps = .ok r ∧
      (r = true ↔ ∃ p ∈ ps, ∃ t, d.modified p = .ok t ∧ built < t) := by
  induction ps with
  | nil => exact ⟨false, rfl, by simp⟩
  | cons p ps ih =>
    obtain ⟨hp, hps⟩ := List.forall_mem_cons.1 hread
    obtain ⟨r, hr, hnewer⟩ := ih hps
    unfold anyNewer modified?
    cases hmodified : d.modified p with
    | error e =>
      obtain rfl := hp e hmodified
      exact ⟨r, hr, by simp [hnewer, hmodified]⟩
    | ok t =>
      by_cases hlater : built < t
      · refine ⟨true, by simp [bind, Except.bind, hlater], ?_⟩
        simp [hmodified, hlater]
      · refine ⟨r, by simp [bind, Except.bind, hlater, hr], ?_⟩
        simp [hnewer, hmodified, hlater]

/-- Among what its path leads to, a later file is found where there is one. -/
theorem exists_anyNewerBelow (built : Time) {root : Path} {a : Address}
    {es : List (List String × Node)}
    (hread : ∀ e ∈ es, (∀ target, e.2 ≠ .link target) →
      d.stat (Disk.pathBelow root e.1) = .ok (a ++ e.1, e.2)) :
    ∃ r, anyNewerBelow d built root es = .ok r ∧
      (r = true ↔ ∃ names content t x, (names, .file content t x) ∈ es ∧ built < t) := by
  induction es with
  | nil => exact ⟨false, rfl, by simp⟩
  | cons e es ih =>
    obtain ⟨names, x⟩ := e
    obtain ⟨he, hes⟩ := List.forall_mem_cons.1 hread
    obtain ⟨r, hr, hnewer⟩ := ih hes
    unfold anyNewerBelow
    cases x with
    | link target => exact ⟨r, hr, by simp [hnewer]⟩
    | directory m => exact ⟨r, by simp [he (by simp), hr], by simp [hnewer]⟩
    | file content t x =>
      have hmodified : d.modified (Disk.pathBelow root names) = .ok t :=
        Disk.modified_eq_ok_iff.2 ⟨_, _, he (by simp), rfl⟩
      by_cases hlater : built < t
      · refine ⟨true, by simp [hmodified, hlater], iff_of_true rfl ?_⟩
        exact ⟨names, content, t, x, List.mem_cons_self, hlater⟩
      · refine ⟨r, by simp [hmodified, hlater, hr], ?_⟩
        rw [hnewer]
        constructor
        · rintro ⟨names, content, t, x, hmem, hlt⟩
          exact ⟨names, content, t, x, List.mem_cons_of_mem _ hmem, hlt⟩
        · rintro ⟨names, content, t, x, hmem, hlt⟩
          obtain heq | hmem := List.mem_cons.1 hmem
          · cases heq
            exact absurd hlt hlater
          · exact ⟨names, content, t, x, hmem, hlt⟩

-- ---------------------------------------------------------------------------
-- The verdict
-- ---------------------------------------------------------------------------

/-- What stands below the source directory is found by its path. -/
theorem Readable.stat_below (hread : Readable d directory binary) (htree : d.IsTree) {a : Address}
    {m : Time} (hroot : d.stat (directory / sourceDirectory) = .ok (a, .directory m)) :
    ∀ e ∈ d.below a, (∀ target, e.2 ≠ .link target) →
      d.stat (Disk.pathBelow (directory / sourceDirectory) e.1) = .ok (a ++ e.1, e.2) := by
  rintro ⟨names, x⟩ he hlink
  obtain ⟨-, hnode⟩ := htree.mem_below_iff.1 he
  obtain ⟨t, htime⟩ := hread.sources a m hroot _ he hlink
  obtain ⟨b, y, hstat, -⟩ := Disk.modified_eq_ok_iff.1 htime
  exact htree.stat_pathBelow hroot hnode hlink (Disk.stat_eq_ok_iff.1 hstat).1.short

/-- A binary that is there is stale for an input beside the sources or for one below them. -/
theorem stale_iff (hbuilt : d.modified binary = .ok built) :
    Stale d directory binary ↔
      (∃ p ∈ rootInputs.map (directory / ·), ∃ t, d.modified p = .ok t ∧ built < t) ∨
        ∃ a m names content t x, d.stat (directory / sourceDirectory) = .ok (a, .directory m) ∧
          d.node? (a ++ names) = some (.file content t x) ∧ built < t := by
  constructor
  · rintro (hmissing | ⟨hbuilt', hinput, hlater⟩)
    · rw [hbuilt] at hmissing
      cases hmissing
    · rw [hbuilt] at hbuilt'
      cases hbuilt'
      cases hinput with
      | root hname hstat htime => exact .inl ⟨_, List.mem_map_of_mem hname, _, htime, hlater⟩
      | source hroot hfile => exact .inr ⟨_, _, _, _, _, _, hroot, hfile, hlater⟩
  · rintro (⟨p, hp, t, htime, hlater⟩ | ⟨a, m, names, content, t, x, hroot, hfile, hlater⟩)
    · obtain ⟨name, hname, rfl⟩ := List.mem_map.1 hp
      obtain ⟨a, x, hstat, -⟩ := Disk.modified_eq_ok_iff.1 htime
      exact .older hbuilt (.root hname hstat htime) hlater
    · exact .older hbuilt (.source hroot hfile) hlater

/-- The files below an address are those at the addresses that continue it. -/
theorem mem_below_file_iff (htree : d.IsTree) {a : Address} {m : Time}
    (hdir : d.node? a = some (.directory m)) {names : List String} {content : ByteArray}
    {x : Bool} :
    (names, .file content t x) ∈ d.below a ↔ d.node? (a ++ names) = some (.file content t x) := by
  rw [htree.mem_below_iff]
  refine and_iff_right_of_imp fun hfile => ?_
  rintro rfl
  rw [List.append_nil, hdir] at hfile
  cases hfile

theorem exists_isOutdated (htree : d.IsTree) (hread : Readable d directory binary) :
    ∃ r, isOutdated d directory binary = .ok r ∧ (r = true ↔ Stale d directory binary) := by
  unfold isOutdated modified?
  cases hbuilt : d.modified binary with
  | error e =>
    obtain rfl := hread.binary e hbuilt
    exact ⟨true, rfl, iff_of_true rfl (.missing hbuilt)⟩
  | ok built =>
    have hroot : ∀ p ∈ rootInputs.map (directory / ·), ∀ e, d.modified p = .error e →
        e = .notFound := by
      simpa using hread.root
    obtain ⟨r, hr, hnewer⟩ := exists_anyNewer built hroot
    simp only [bind, Except.bind, hr]
    rw [stale_iff hbuilt, ← hnewer]
    cases r with
    | true => exact ⟨true, rfl, by simp⟩
    | false =>
      simp only [Bool.false_eq_true, if_false, false_or]
      split
      · rename_i a m hroot
        obtain ⟨r, hr, hnewer⟩ := exists_anyNewerBelow built
          (hread.stat_below htree hroot)
        have hdir := (Disk.stat_eq_ok_iff.1 hroot).2.node?_eq
        simp only [mem_below_file_iff htree hdir] at hnewer
        refine ⟨r, hr, hnewer.trans ?_⟩
        constructor
        · rintro ⟨names, content, t, x, hfile, hlater⟩
          exact ⟨a, m, names, content, t, x, hroot, hfile, hlater⟩
        · rintro ⟨_, _, names, content, t, x, hroot', hfile, hlater⟩
          rw [hroot] at hroot'
          cases hroot'
          exact ⟨names, content, t, x, hfile, hlater⟩
      · rename_i hroot
        refine ⟨false, rfl, iff_of_false nofun ?_⟩
        rintro ⟨a, m, _, _, _, _, hdir, -⟩
        exact hroot a m hdir

theorem isOutdated_eq_true_iff (htree : d.IsTree) (hread : Readable d directory binary) :
    isOutdated d directory binary = .ok true ↔ Stale d directory binary := by
  obtain ⟨r, hr, hstale⟩ := exists_isOutdated htree hread
  rw [hr, ← hstale, Except.ok.injEq]

theorem isOutdated_eq_false_iff (htree : d.IsTree) (hread : Readable d directory binary) :
    isOutdated d directory binary = .ok false ↔ ¬ Stale d directory binary := by
  obtain ⟨r, hr, hstale⟩ := exists_isOutdated htree hread
  rw [hr, ← hstale, Except.ok.injEq, Bool.not_eq_true]

-- ---------------------------------------------------------------------------
-- Other times
-- ---------------------------------------------------------------------------

section

variable {d' : Disk} {a : Address}

/-- An input stays one at other times. -/
theorem Input.exists_retimed (hinput : Input d directory a t) (h : d.Retimed d') :
    ∃ t', Input d' directory a t' := by
  cases hinput with
  | root hname hstat htime =>
    obtain ⟨x', hstat', -⟩ := h.exists_stat hstat
    obtain ⟨t', htime'⟩ := h.exists_modified htime
    exact ⟨t', .root hname hstat' htime'⟩
  | source hroot hfile =>
    obtain ⟨x', hroot', hdirectory⟩ := h.exists_stat hroot
    obtain ⟨y', hfile', hfileAlike⟩ := h.exists_node? hfile
    cases hdirectory
    cases hfileAlike
    exact ⟨_, .source hroot' hfile'⟩

/-- The time of an input is that of what stands there. -/
theorem Input.node? (hinput : Input d directory a t) :
    ∃ x, d.node? a = some x ∧ x.modified?.getD d.now = t := by
  cases hinput with
  | root hname hstat htime =>
    obtain ⟨b, y, hstat', hy⟩ := Disk.modified_eq_ok_iff.1 htime
    rw [hstat] at hstat'
    cases hstat'
    exact ⟨_, (Disk.stat_eq_ok_iff.1 hstat).2.node?_eq, hy⟩
  | source hroot hfile => exact ⟨_, hfile, rfl⟩

theorem Readable.retimed (hread : Readable d directory binary) (htree : d.IsTree)
    (htree' : d'.IsTree) (h : d.Retimed d') : Readable d' directory binary where
  binary e he := hread.binary e (h.symm.modified_eq_error he)
  root name hname e he := hread.root name hname e (h.symm.modified_eq_error he)
  sources := by
    rintro a m hroot ⟨names, x⟩ he hlink
    obtain ⟨hne, hnode⟩ := htree'.mem_below_iff.1 he
    obtain ⟨r, hroot', hdirectory⟩ := h.symm.exists_stat hroot
    obtain ⟨y, hnode', halike⟩ := h.symm.exists_node? hnode
    cases hdirectory
    have hylink : ∀ target, y ≠ .link target := by
      rintro target rfl
      cases halike
      exact hlink target rfl
    obtain ⟨t, htime⟩ := hread.sources a _ hroot' _ (htree.mem_below_iff.2 ⟨hne, hnode'⟩) hylink
    exact h.exists_modified htime

/-- What is stale stays so where inputs are later and the binary is as it was. -/
theorem Stale.of_later_inputs (hstale : Stale d directory binary) (h : d.Retimed d')
    (hbinary : d'.modified binary = d.modified binary)
    (hinputs : ∀ a t t', Input d directory a t → Input d' directory a t' → t ≤ t') :
    Stale d' directory binary := by
  obtain hmissing | ⟨hbuilt, hinput, hlater⟩ := hstale
  · exact .missing (hbinary.trans hmissing)
  · obtain ⟨t', hinput'⟩ := hinput.exists_retimed h
    exact .older (hbinary.trans hbuilt) hinput'
      (Int.lt_of_lt_of_le hlater (hinputs _ _ _ hinput hinput'))

/-- What is stale was so where the binary was earlier and no input but the binary was later. -/
theorem Stale.of_earlier_binary (hstale : Stale d' directory binary) (h : d.Retimed d')
    (hbinary : ∀ t t', d.modified binary = .ok t → d'.modified binary = .ok t' → t ≤ t')
    (hinputs : ∀ a t t', Input d directory a t → Input d' directory a t' →
      t' ≤ t ∨ ∃ x, d.stat binary = .ok (a, x)) :
    Stale d directory binary := by
  obtain hmissing | ⟨hbuilt', hinput', hlater⟩ := hstale
  · exact .missing (h.symm.modified_eq_error hmissing)
  · obtain ⟨t, hinput⟩ := hinput'.exists_retimed h.symm
    obtain ⟨built, hbuilt⟩ := h.symm.exists_modified hbuilt'
    have hle := hbinary _ _ hbuilt hbuilt'
    obtain hearlier | ⟨x, hstat⟩ := hinputs _ _ _ hinput hinput'
    · exact .older hbuilt hinput
        (Int.lt_of_le_of_lt hle (Int.lt_of_lt_of_le hlater hearlier))
    · -- the input is the binary itself, which is not later than itself
      obtain ⟨x', hstat', -⟩ := h.exists_stat hstat
      obtain ⟨b, y, hstat'', hy⟩ := Disk.modified_eq_ok_iff.1 hbuilt'
      rw [hstat'] at hstat''
      cases hstat''
      obtain ⟨z, hz, hztime⟩ := hinput'.node?
      rw [(Disk.stat_eq_ok_iff.1 hstat').2.node?_eq] at hz
      cases hz
      rw [← hztime, hy] at hlater
      exact absurd hlater (Int.lt_irrefl _)

theorem stale_iff_of_perm (htree : d.IsTree) {ns : List (Address × Node)}
    (hperm : ns.Perm d.nodes) :
    Stale { d with nodes := ns } directory binary ↔ Stale d directory binary := by
  have h := Disk.Retimed.of_perm htree hperm
  have hnodes := htree.node?_of_perm hperm
  have hbinary : ({ d with nodes := ns } : Disk).modified binary = d.modified binary :=
    h.modified_eq rfl hnodes
  have htimes {a : Address} {t t' : Time} (hinput : Input d directory a t)
      (hinput' : Input { d with nodes := ns } directory a t') : t' = t := by
    obtain ⟨x, hx, ht⟩ := hinput.node?
    obtain ⟨x', hx', ht'⟩ := hinput'.node?
    rw [hnodes, hx] at hx'
    cases hx'
    exact ht'.symm.trans ht
  constructor
  · intro hstale
    exact hstale.of_later_inputs h.symm hbinary.symm
      fun _ _ _ hinput' hinput => Int.le_of_eq (htimes hinput hinput')
  · intro hstale
    exact hstale.of_later_inputs h hbinary fun _ _ _ hinput hinput' =>
      Int.le_of_eq (htimes hinput hinput').symm

end

/-- The binary has to be built when it is stale and not otherwise, in whatever order its inputs are
examined. Later inputs leave a stale binary stale while its own time stands, and a later binary
leaves a fresh one fresh. -/
theorem isOutdated_byTimes (htree : d.IsTree) (hread : Readable d directory binary) :
    (isOutdated d directory binary = .ok true ↔ Stale d directory binary) ∧
    (isOutdated d directory binary = .ok false ↔ ¬ Stale d directory binary) ∧
    (∀ ns : List (Address × Node), ns.Perm d.nodes →
      isOutdated { d with nodes := ns } directory binary = isOutdated d directory binary) ∧
    ∀ d' : Disk, d'.IsTree → d.Retimed d' →
      (d'.modified binary = d.modified binary →
        (∀ a t t', Input d directory a t → Input d' directory a t' → t ≤ t') →
        isOutdated d directory binary = .ok true → isOutdated d' directory binary = .ok true) ∧
      ((∀ t t', d.modified binary = .ok t → d'.modified binary = .ok t' → t ≤ t') →
        (∀ a t t', Input d directory a t → Input d' directory a t' →
          t' ≤ t ∨ ∃ x, d.stat binary = .ok (a, x)) →
        isOutdated d directory binary = .ok false →
        isOutdated d' directory binary = .ok false) := by
  refine ⟨isOutdated_eq_true_iff htree hread, isOutdated_eq_false_iff htree hread, ?_, ?_⟩
  · intro ns hperm
    have htree' := htree.of_perm hperm
    have hread' := hread.retimed htree htree' (.of_perm htree hperm)
    obtain ⟨r, hr, hstale⟩ := exists_isOutdated htree hread
    obtain ⟨r', hr', hstale'⟩ := exists_isOutdated htree' hread'
    rw [hr, hr', Except.ok.injEq, Bool.eq_iff_iff, hstale, hstale', stale_iff_of_perm htree hperm]
  · intro d' htree' h
    have hread' := hread.retimed htree htree' h
    rw [isOutdated_eq_true_iff htree hread, isOutdated_eq_true_iff htree' hread',
      isOutdated_eq_false_iff htree hread, isOutdated_eq_false_iff htree' hread']
    constructor
    · intro hbinary hinputs hstale
      exact hstale.of_later_inputs h hbinary hinputs
    · intro hbinary hinputs hfresh hstale
      exact hfresh (hstale.of_earlier_binary h hbinary hinputs)

end

/-- A binary that is kept among its own sources, with the times of the manifest and of the binary. -/
def selfBuilt (manifest built : Time) : Disk where
  nodes := [
    (["v"], .directory 0),
    (["v", "Cargo.toml"], .file .empty manifest false),
    (["v", "src"], .directory 0),
    (["v", "src", "nested"], .directory 0),
    (["v", "src", "nested", "lib.rs"], .file .empty 4 false),
    (["v", "src", "latest"], .link ⟨"nested/lib.rs"⟩),
    (["v", "src", "validator"], .file .empty built true)]
  current := []
  now := 9

theorem selfBuilt_isTree : (selfBuilt 6 5).IsTree := by decide

theorem selfBuilt_retimed (manifest built manifest' built' : Time) :
    (selfBuilt manifest built).Retimed (selfBuilt manifest' built') :=
  .of_forall₂ rfl <|
    .cons ⟨rfl, .directory ..⟩ <| .cons ⟨rfl, .file ..⟩ <| .cons ⟨rfl, .directory ..⟩ <|
    .cons ⟨rfl, .directory ..⟩ <| .cons ⟨rfl, .file ..⟩ <| .cons ⟨rfl, .link ..⟩ <|
    .cons ⟨rfl, .file ..⟩ .nil

theorem stat_sources_selfBuilt (manifest built : Time) :
    (selfBuilt manifest built).stat (⟨"v"⟩ / sourceDirectory) =
      .ok (["v", "src"], .directory 0) := rfl

theorem selfBuilt_readable : Readable (selfBuilt 6 5) ⟨"v"⟩ ⟨"v/src/validator"⟩ where
  binary := by
    have hbinary : (selfBuilt 6 5).modified ⟨"v/src/validator"⟩ = .ok 5 := by decide
    simp [hbinary]
  root := by
    have hmanifest : (selfBuilt 6 5).modified (⟨"v"⟩ / ⟨"Cargo.toml"⟩) = .ok 6 := by decide
    have hlock : (selfBuilt 6 5).modified (⟨"v"⟩ / ⟨"Cargo.lock"⟩) = .error .notFound := by
      decide
    simp [rootInputs, hmanifest, hlock]
  sources := by
    intro a m hroot e he hlink
    rw [stat_sources_selfBuilt] at hroot
    cases hroot
    have hbelow : (selfBuilt 6 5).below ["v", "src"] = [
        (["nested"], .directory 0),
        (["nested", "lib.rs"], .file .empty 4 false),
        (["latest"], .link ⟨"nested/lib.rs"⟩),
        (["validator"], .file .empty 5 true)] := rfl
    rw [hbelow] at he
    simp only [List.mem_cons, List.not_mem_nil, or_false] at he
    obtain rfl | rfl | rfl | rfl := he
    · exact ⟨0, by decide⟩
    · exact ⟨4, by decide⟩
    · exact absurd rfl (hlink ⟨"nested/lib.rs"⟩)
    · exact ⟨5, by decide⟩

/-- With a later manifest no input is earlier. -/
theorem inputs_later_selfBuilt {a : Address} {t t' : Time} (h : Input (selfBuilt 6 5) ⟨"v"⟩ a t)
    (h' : Input (selfBuilt 8 5) ⟨"v"⟩ a t') : t ≤ t' := by
  obtain ⟨x, hx, rfl⟩ := h.node?
  obtain ⟨x', hx', rfl⟩ := h'.node?
  by_cases ha : a = []
  · subst ha
    cases hx
    cases hx'
    decide
  · have hmem := (selfBuilt_isTree.node?_eq_some_iff ha).1 hx
    simp only [selfBuilt, List.mem_cons, Prod.mk.injEq, List.not_mem_nil, or_false] at hmem
    obtain ⟨rfl, rfl⟩ | ⟨rfl, rfl⟩ | ⟨rfl, rfl⟩ | ⟨rfl, rfl⟩ | ⟨rfl, rfl⟩ | ⟨rfl, rfl⟩ |
      ⟨rfl, rfl⟩ := hmem <;> cases hx' <;> decide

theorem isOutdated_byTimes_selfBuilt :
    (selfBuilt 6 5).IsTree ∧ Readable (selfBuilt 6 5) ⟨"v"⟩ ⟨"v/src/validator"⟩ ∧
    Stale (selfBuilt 6 5) ⟨"v"⟩ ⟨"v/src/validator"⟩ ∧
    isOutdated { selfBuilt 6 5 with nodes := (selfBuilt 6 5).nodes.reverse } ⟨"v"⟩
      ⟨"v/src/validator"⟩ = .ok true ∧
    isOutdated (selfBuilt 8 5) ⟨"v"⟩ ⟨"v/src/validator"⟩ = .ok true := by
  have houtdated : isOutdated (selfBuilt 6 5) ⟨"v"⟩ ⟨"v/src/validator"⟩ = .ok true := by decide
  obtain ⟨hstale, -, horder, htimes⟩ := isOutdated_byTimes selfBuilt_isTree selfBuilt_readable
  refine ⟨selfBuilt_isTree, selfBuilt_readable, hstale.1 houtdated, ?_, ?_⟩
  · exact (horder _ (List.reverse_perm _)).trans houtdated
  · exact (htimes _ (by decide) (selfBuilt_retimed 6 5 8 5)).1 (by decide)
      (fun _ _ _ => inputs_later_selfBuilt) houtdated

theorem touch_selfBuilt (manifest built t : Time) :
    (selfBuilt manifest built).touch ⟨"v/src/validator"⟩ t = selfBuilt manifest t := by
  have hstat : (selfBuilt manifest built).stat ⟨"v/src/validator"⟩ =
      .ok (["v", "src", "validator"], .file .empty built true) := rfl
  rw [Disk.touch, hstat]
  rfl

/-- An input that is the binary itself: where it becomes later, a stale binary becomes fresh. -/
theorem later_input_not_stale :
    (selfBuilt 6 5).IsTree ∧ Readable (selfBuilt 6 5) ⟨"v"⟩ ⟨"v/src/validator"⟩ ∧
    Input (selfBuilt 6 5) ⟨"v"⟩ ["v", "src", "validator"] 5 ∧
    isOutdated (selfBuilt 6 5) ⟨"v"⟩ ⟨"v/src/validator"⟩ = .ok true ∧
    isOutdated ((selfBuilt 6 5).touch ⟨"v/src/validator"⟩ 7) ⟨"v"⟩ ⟨"v/src/validator"⟩ =
      .ok false := by
  refine ⟨selfBuilt_isTree, selfBuilt_readable, ?_, by decide, ?_⟩
  · have hfile : (selfBuilt 6 5).node? (["v", "src"] ++ ["validator"]) =
        some (.file .empty 5 true) := rfl
    exact .source (stat_sources_selfBuilt 6 5) hfile
  · rw [touch_selfBuilt]
    decide

end SpecCoverage.Freshness
