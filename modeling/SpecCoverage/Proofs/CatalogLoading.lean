-- SUMMARY: Which features a catalog loads from a directory: one for each specification file below it that can be read, in the order of names.
import SpecCoverage.Proofs.CatalogPeriods
import SpecCoverage.Proofs.DiskTree
import SpecCoverage.Proofs.Order

/-!
# Loading a directory

A catalog that has read nothing loads a feature for each specification file at any depth below a
directory, as long as the file is not too large and its path not too long for the system. `Lists`
collects what this means; the list of files that it speaks of leaves no choice, so what is loaded
depends on these files alone.
-/
namespace SpecCoverage

/-! ## Names of specification files -/

namespace Path

theorem parts_of_isName {t : String} (h : Disk.IsName t) : parts ⟨t⟩ = [.name t] := by
  have hhead : ¬ some t = some "." := fun heq => h.not_here (Option.some.inj heq)
  rw [parts_of_not_isAbsolute (isAbsolute_of_not_mem h.not_slash), pieces_of_not_mem h.not_slash,
    List.head?_cons, if_neg hhead, inner_of_not_mem h.not_slash]
  simp [h.partOfPiece?]

end Path

namespace Disk

theorem parts_pathBelow_of_isName {root : Path} {names : List String} (hroot : root.text ≠ "")
    (hnames : ∀ t ∈ names, IsName t) :
    (pathBelow root names).parts = root.parts ++ names.map .name := by
  rw [parts_pathBelow hroot fun t ht => (hnames t ht).not_slash]
  congr 1
  induction names with
  | nil => rfl
  | cons t names ih =>
    obtain ⟨ht, hnames⟩ := List.forall_mem_cons.1 hnames
    rw [List.filterMap_cons, ht.partOfPiece?, List.map_cons, ih hnames]

/-- The extension of a file below a directory is that of its name. -/
theorem extension?_pathBelow {root : Path} {names : List String} (hroot : root.text ≠ "")
    (hnames : ∀ t ∈ names, IsName t) (hne : names ≠ []) :
    (pathBelow root names).extension? = names.getLast?.bind fun t => Path.extension? ⟨t⟩ := by
  obtain ⟨front, t, rfl⟩ := (List.eq_nil_or_concat' names).resolve_left hne
  have ht : IsName t := hnames t (by simp)
  have hfile : (pathBelow root (front ++ [t])).fileName? = Path.fileName? ⟨t⟩ := by
    unfold Path.fileName?
    rw [parts_pathBelow_of_isName hroot hnames, Path.parts_of_isName ht, List.map_append,
      ← List.append_assoc, List.map_singleton]
    simp [Path.lastName?]
  rw [List.getLast?_concat, Option.bind_some, Path.extension?, hfile]
  rfl

end Disk

/-! ## Reads of different paths -/

namespace SourceRead

variable {root : Path} {d : Disk}

theorem map_key?_reading {cache : SourceCache} (files : List Path) :
    (reading root d cache files).map (·.key? root) =
      files.map fun file => SourceCache.key? d (root / file) :=
  calc
    _ = (reading root d cache files).map fun r => SourceCache.key? d (root / r.file) :=
      List.map_congr_left fun r hr => by rw [key?, disk_of_mem_reading hr]
    _ = ((reading root d cache files).map (·.file)).map
          fun file => SourceCache.key? d (root / file) := by
      rw [List.map_map]
      rfl
    _ = _ := by rw [map_file_reading]

/-- Where all paths are different, the disk answers each read. -/
theorem result_of_distinct {files : List Path}
    (hkeys : (files.map fun file => SourceCache.key? d (root / file)).Nodup) :
    ∀ r ∈ reading root d .empty files, r.result = SourceCache.onDisk d (root / r.file) := by
  intro r hr
  have hremembered : Remembered root ([] ++ reading root d .empty files) _ :=
    Remembered.nil.append_reading d files
  have hkeys : ((reading root d .empty files).map (·.key? root)).Nodup := by
    rw [map_key?_reading]
    exact hkeys
  rw [List.nil_append] at hremembered
  have hdisk := disk_of_mem_reading hr
  obtain ⟨past, later, hsplit⟩ := List.append_of_mem hr
  rw [hsplit] at hremembered hkeys
  have hresult := hremembered.first past r ⟨later, by simp⟩ ?_
  · rw [hresult, onDisk, hdisk]
  · intro k hk q hq hkeeps
    rw [List.map_append, List.map_cons, List.nodup_append] at hkeys
    exact hkeys.2.2 _ (List.mem_map_of_mem hq) _ List.mem_cons_self (hkeeps.2.trans hk.symm)

end SourceRead

namespace Catalog

/-- The names of the specification files below a directory, in order. -/
def featureNames (d : Disk) (root : Path) : List (List String) :=
  (((d.filesBelow root).map (·.1)).filter fun ns =>
    (ns.getLast?.bind fun n => Path.extension? ⟨n⟩) = some extension).mergeSort
      fun a b => (compare a b).isLE

theorem featureFiles_eq (d : Disk) (root : Path) :
    featureFiles d root = (featureNames d root).map (Disk.pathBelow root) := rfl

theorem featureNames_increasing {d : Disk} (htree : d.IsTree) (root : Path) :
    (featureNames d root).Pairwise fun ns ms => compare ns ms = .lt := by
  have hnodup : (featureNames d root).Nodup :=
    (List.mergeSort_perm ..).nodup_iff.2 ((Disk.filesBelow_nodup htree root).filter _)
  refine ((pairwise_mergeSort_isLE compare _).and hnodup).imp ?_
  rintro ns ms ⟨hle, hne⟩
  cases hcmp : compare ns ms with
  | lt => rfl
  | eq => exact absurd (Std.LawfulEqCmp.eq_of_compare hcmp) hne
  | gt =>
    rw [hcmp] at hle
    cases hle

theorem mem_featureNames {d : Disk} (htree : d.IsTree) {root : Path} {names : List String} :
    names ∈ featureNames d root ↔ (∃ content, d.HasFile root names content) ∧
      (Disk.pathBelow root names).extension? = some extension := by
  rw [featureNames, List.mem_mergeSort, List.mem_filter, Disk.mem_filesBelow htree,
    decide_eq_true_eq]
  refine and_congr_right ?_
  rintro ⟨content, hfile⟩
  obtain ⟨a, t, m, x, hroot, -⟩ := id hfile
  rw [Disk.extension?_pathBelow (Disk.stat_eq_ok_iff.1 hroot).1.nonempty (hfile.names htree)
    hfile.names_ne_nil]

/-! ## What is loaded -/

/-- The features loaded from a directory are those of the listed files: the specification files below
it whose paths fit and that are not too large, in the order of their names. -/
structure Lists (c : Catalog) (d : Disk) (directory : Path) (fits : Path → Prop)
    (found : List (List String)) (features : List Feature) : Prop where
  increasing : found.Pairwise fun ns ms => compare ns ms = .lt
  mem_iff : ∀ names, names ∈ found ↔ ∃ content, d.HasFile (c.root / directory) names content ∧
    (Disk.pathBelow (c.root / directory) names).extension? = some extension ∧
      content.size ≤ SourceCache.sizeLimit ∧ fits (Disk.pathBelow (c.root / directory) names)
  reads : List.Forall₂ (fun names f => ∃ content, d.HasFile (c.root / directory) names content ∧
      f = Feature.read c.policy (c.relative (Disk.pathBelow (c.root / directory) names))
        (Folder.ofFile (c.root / directory) (Disk.pathBelow (c.root / directory) names))
        (Text.Utf8.text content))
    found features

/-- Is a path short enough for the system? -/
def Short (p : Path) : Prop :=
  p.text.utf8ByteSize < Disk.pathLimit

/-- The feature that a file gives where the disk has its text. -/
def featureAt? (c : Catalog) (d : Disk) (directory file : Path) : Option Feature :=
  (SourceCache.onDisk d (c.root / file)).toOption.map
    (Feature.read c.policy (c.relative file) (Folder.ofFile (c.root / directory) file))

/-- Of files with different paths each is loaded as the disk has it. -/
theorem load_start (root : Path) (policy : LanguagePolicy) {d : Disk} {directory : Path}
    (hkeys : ((featureFiles d (root / directory)).map
      fun file => SourceCache.key? d (root / file)).Nodup) :
    ((start root policy).load d directory).1 =
      (featureFiles d (root / directory)).filterMap
        ((start root policy).featureAt? d directory) := by
  have hresults := SourceRead.result_of_distinct hkeys
  rw [load_eq]
  calc
    _ = ((start root policy).loadReads d directory).filterMap
          fun r => (start root policy).featureAt? d directory r.file :=
      List.filterMap_congr fun r hr => by
        rw [featureOf?, hresults r hr]
        rfl
    _ = (((start root policy).loadReads d directory).map (·.file)).filterMap
          ((start root policy).featureAt? d directory) := by
      rw [List.filterMap_map]
      rfl
    _ = _ := by
      rw [loadReads, SourceRead.map_file_reading]
      rfl

section

variable {root : Path} {policy : LanguagePolicy} {d : Disk} {directory : Path}

theorem text_ne_empty_of_isAbsolute {p : Path} (h : p.isAbsolute = true) : p.text ≠ "" := by
  intro hempty
  rw [Path.isAbsolute_iff, hempty] at h
  simp at h

variable (htree : d.IsTree) (habsolute : (root / directory).isAbsolute = true)

include habsolute in
/-- Files below an absolute directory are read at their own paths. -/
theorem absolute_pathBelow {names : List String} (hnames : ∀ t ∈ names, Disk.IsName t) :
    SourceCache.absolute d (root / Disk.pathBelow (root / directory) names) =
      .ok (Disk.pathBelow (root / directory) names) := by
  have hpath := (Disk.isAbsolute_pathBelow (text_ne_empty_of_isAbsolute habsolute)
    fun t ht => (hnames t ht).not_slash).trans habsolute
  rw [Path.join_of_isAbsolute hpath, SourceCache.absolute, if_pos hpath]

include htree in
theorem isName_of_mem_featureNames {names : List String} (h : names ∈ featureNames d root) :
    ∀ t ∈ names, Disk.IsName t := by
  obtain ⟨⟨content, hfile⟩, -⟩ := (mem_featureNames htree).1 h
  exact hfile.names htree

include htree habsolute in
theorem keys_nodup : ((featureFiles d (root / directory)).map
    fun file => SourceCache.key? d (root / file)).Nodup := by
  rw [featureFiles_eq, List.map_map]
  refine List.pairwise_map.2 ((featureNames_increasing htree (root / directory)).imp_of_mem ?_)
  intro ns ms hns hms hlt hkeys
  have hns := isName_of_mem_featureNames htree hns
  have hms := isName_of_mem_featureNames htree hms
  have hroot := text_ne_empty_of_isAbsolute habsolute
  simp only [Function.comp_apply, SourceCache.key?, absolute_pathBelow habsolute hns,
    absolute_pathBelow habsolute hms, Except.toOption, Option.map_some, Option.some.injEq,
    Disk.parts_pathBelow_of_isName hroot hns, Disk.parts_pathBelow_of_isName hroot hms] at hkeys
  have hsame : ns = ms :=
    List.map_injective_iff.2 (fun _ _ => Path.Part.name.inj) (List.append_cancel_left hkeys)
  rw [hsame] at hlt
  simp at hlt

include htree habsolute in
/-- A file gives a feature unless it is too large or its path too long. -/
theorem featureAt?_eq_some_iff {names : List String} {content : ByteArray}
    (hfile : d.HasFile (root / directory) names content) {f : Feature} :
    (start root policy).featureAt? d directory (Disk.pathBelow (root / directory) names) = some f ↔
      content.size ≤ SourceCache.sizeLimit ∧ Short (Disk.pathBelow (root / directory) names) ∧
        f = Feature.read policy
          ((start root policy).relative (Disk.pathBelow (root / directory) names))
          (Folder.ofFile (root / directory) (Disk.pathBelow (root / directory) names))
          (Text.Utf8.text content) := by
  have habs := absolute_pathBelow (d := d) habsolute (hfile.names htree)
  have hcontent : SourceCache.content d (root / Disk.pathBelow (root / directory) names) =
      d.read (Disk.pathBelow (root / directory) names) := by
    rw [SourceCache.content, habs]
    rfl
  unfold featureAt?
  constructor
  · intro h
    obtain ⟨text, htext, rfl⟩ := Option.map_eq_some_iff.1 h
    have hdisk : SourceCache.onDisk d (root / Disk.pathBelow (root / directory) names) =
        .ok text := by
      cases hread : SourceCache.onDisk d (root / Disk.pathBelow (root / directory) names) with
      | ok text' =>
        simp only [start, hread, Except.toOption, Option.some.injEq] at htext
        rw [htext]
      | error e =>
        simp only [start, hread, Except.toOption] at htext
        cases htext
    obtain ⟨bytes, hbytes, hsize, rfl⟩ := SourceCache.onDisk_eq_ok_iff.1 hdisk
    rw [hcontent] at hbytes
    by_cases hshort : Short (Disk.pathBelow (root / directory) names)
    · rw [hfile.read_eq htree hshort] at hbytes
      cases hbytes
      exact ⟨hsize, hshort, rfl⟩
    · exact absurd hbytes (Disk.read_of_not_short hshort)
  · rintro ⟨hsize, hshort, rfl⟩
    have hread := hcontent.trans (hfile.read_eq htree hshort)
    have hdisk := SourceCache.onDisk_eq_ok_iff.2 ⟨content, hread, hsize, rfl⟩
    simp only [start, hdisk, Except.toOption, Option.map_some]

omit htree habsolute in
/-- The elements that a function has values for, and their values. -/
theorem forall₂_filterMap {α β : Type} (f : α → Option β) (as : List α) :
    List.Forall₂ (fun a b => a ∈ as ∧ f a = some b) (as.filter fun a => (f a).isSome)
      (as.filterMap f) := by
  induction as with
  | nil => exact .nil
  | cons a as ih =>
    have ih : List.Forall₂ (fun a' b => a' ∈ a :: as ∧ f a' = some b)
        (as.filter fun a => (f a).isSome) (as.filterMap f) :=
      ih.imp fun _ _ h => ⟨List.mem_cons_of_mem a h.1, h.2⟩
    cases h : f a with
    | none =>
      rw [List.filter_cons_of_neg (by simp [h]), List.filterMap_cons_none h]
      exact ih
    | some b =>
      rw [List.filter_cons_of_pos (by simp [h]), List.filterMap_cons_some h]
      exact .cons ⟨List.mem_cons_self, h⟩ ih

include htree habsolute in
/-- What is loaded from a directory of a tree. -/
theorem exists_lists (policy : LanguagePolicy) :
    ∃ found, Lists (start root policy) d directory Short found
      ((start root policy).load d directory).1 := by
  have hload := load_start root policy (keys_nodup htree habsolute)
  rw [featureFiles_eq, List.filterMap_map] at hload
  refine ⟨(featureNames d (root / directory)).filter fun names =>
    ((start root policy).featureAt? d directory (Disk.pathBelow (root / directory) names)).isSome,
    ?_, ?_, ?_⟩
  · exact (featureNames_increasing htree _).filter _
  · intro names
    rw [List.mem_filter, mem_featureNames htree, Option.isSome_iff_exists]
    constructor
    · rintro ⟨⟨⟨content, hfile⟩, hextension⟩, f, hf⟩
      obtain ⟨hsize, hshort, -⟩ := (featureAt?_eq_some_iff htree habsolute hfile).1 hf
      exact ⟨content, hfile, hextension, hsize, hshort⟩
    · rintro ⟨content, hfile, hextension, hsize, hshort⟩
      exact ⟨⟨⟨content, hfile⟩, hextension⟩, _,
        (featureAt?_eq_some_iff htree habsolute hfile).2 ⟨hsize, hshort, rfl⟩⟩
  · rw [hload]
    refine (forall₂_filterMap _ _).imp ?_
    rintro names f ⟨hmem, hf⟩
    obtain ⟨⟨content, hfile⟩, -⟩ := (mem_featureNames htree).1 hmem
    obtain ⟨-, -, hfeature⟩ := (featureAt?_eq_some_iff htree habsolute hfile).1 hf
    exact ⟨content, hfile, hfeature⟩

end

/-! ## Disks with the same files -/

namespace Lists

variable {c : Catalog} {d d' : Disk} {directory : Path} {fits : Path → Prop}
  {found found' : List (List String)} {features features' : List Feature}

theorem nodup (h : Lists c d directory fits found features) : found.Nodup := by
  refine h.increasing.imp ?_
  rintro ns _ hlt rfl
  simp at hlt

/-- Lists of the same files that are not too large. -/
theorem found_eq (h : Lists c d directory fits found features)
    (h' : Lists c d' directory fits found' features')
    (hfiles : ∀ names content, content.size ≤ SourceCache.sizeLimit →
      (d.HasFile (c.root / directory) names content ↔
        d'.HasFile (c.root / directory) names content)) : found = found' := by
  refine List.Perm.eq_of_pairwise ?_ h.increasing h'.increasing ?_
  · intro ns ms _ _ hlt hgt
    exact absurd (Std.TransCmp.lt_trans hlt hgt) (by simp)
  · refine (List.perm_ext_iff_of_nodup h.nodup h'.nodup).2 fun names => ?_
    rw [h.mem_iff, h'.mem_iff]
    refine exists_congr fun content => ?_
    constructor
    · rintro ⟨hfile, hextension, hsize, hfits⟩
      exact ⟨(hfiles names content hsize).1 hfile, hextension, hsize, hfits⟩
    · rintro ⟨hfile, hextension, hsize, hfits⟩
      exact ⟨(hfiles names content hsize).2 hfile, hextension, hsize, hfits⟩

/-- The listed files leave no choice of the features. -/
theorem unique (h : Lists c d directory fits found features)
    (h' : Lists c d' directory fits found' features')
    (hfiles : ∀ names content, content.size ≤ SourceCache.sizeLimit →
      (d.HasFile (c.root / directory) names content ↔
        d'.HasFile (c.root / directory) names content)) : features = features' := by
  obtain rfl := h.found_eq h' hfiles
  have hsame : ∀ names ∈ found, ∀ content content',
      d.HasFile (c.root / directory) names content →
        d'.HasFile (c.root / directory) names content' → content = content' := by
    intro names hnames content content' hfile hfile'
    obtain ⟨bytes, hbytes, -, hsize, -⟩ := (h.mem_iff names).1 hnames
    obtain rfl := hbytes.unique hfile
    exact ((hfiles names bytes hsize).1 hbytes).unique hfile'
  have hreads := h.reads
  have hreads' := h'.reads
  clear h h'
  -- Both lists of features are read from the listed files, one after the other.
  induction hreads generalizing features' with
  | nil =>
    cases hreads'
    rfl
  | @cons names f found features hf _ ih =>
    cases hreads' with
    | cons hf' hreads' =>
      obtain ⟨content, hfile, rfl⟩ := hf
      obtain ⟨content', hfile', rfl⟩ := hf'
      rw [hsame names List.mem_cons_self content content' hfile hfile',
        ih (fun ns hns => hsame ns (List.mem_cons_of_mem names hns)) hreads']

/-- Where a file is listed there is a feature. -/
theorem features_ne_nil (h : Lists c d directory fits found features) {names : List String}
    (hnames : names ∈ found) : features ≠ [] := by
  rintro rfl
  have hnil := h.reads
  cases hnil
  cases hnames

end Lists

section

variable {root : Path} {policy : LanguagePolicy} {d : Disk} {directory : Path}

theorem load_of_perm (policy : LanguagePolicy) (htree : d.IsTree)
    (habsolute : (root / directory).isAbsolute = true) {ns : List (Address × Node)}
    (hperm : ns.Perm d.nodes) :
    ((start root policy).load { d with nodes := ns } directory).1 =
      ((start root policy).load d directory).1 := by
  obtain ⟨found, hlists⟩ := exists_lists htree habsolute policy
  obtain ⟨found', hlists'⟩ := exists_lists (htree.of_perm hperm) habsolute policy
  have hnode := htree.node?_of_perm hperm
  refine hlists'.unique hlists fun names content _ => ⟨?_, ?_⟩
  · intro hfile
    exact hfile.mono rfl (fun c y hy _ => (hnode c).symm.trans hy)
      fun c m e hc => (hnode c).symm.trans hc
  · intro hfile
    exact hfile.mono rfl (fun c y hy _ => (hnode c).trans hy) fun c m e hc => (hnode c).trans hc

theorem load_erase (policy : LanguagePolicy) (htree : d.IsTree)
    (habsolute : (root / directory).isAbsolute = true) {a : Address} {content : ByteArray}
    {t : Time} {executable : Bool} (ha : d.node? a = some (.file content t executable))
    (hlarge : SourceCache.sizeLimit < content.size) :
    ((start root policy).load (d.erase a) directory).1 =
      ((start root policy).load d directory).1 := by
  have hroot : a ≠ [] := by
    rintro rfl
    simp [Disk.node?] at ha
  obtain ⟨found, hlists⟩ := exists_lists htree habsolute policy
  obtain ⟨found', hlists'⟩ := exists_lists (htree.erase hroot) habsolute policy
  refine hlists'.unique hlists fun names content' hsize => ⟨?_, ?_⟩
  · intro hfile
    exact hfile.mono rfl (fun c y hy _ => Disk.node?_of_erase hroot hy)
      fun c m e hc => Disk.node?_of_erase hroot hc
  · intro hfile
    refine hfile.mono rfl ?_ ?_
    · intro c y hy hdirectory
      refine htree.node?_erase_of_file ha hy ?_
      rintro rfl
      rw [ha] at hy
      cases hy
      cases hdirectory
    · intro c m e hfile
      refine htree.node?_erase_of_file ha hfile ?_
      rintro rfl
      rw [ha] at hfile
      cases hfile
      exact absurd hsize (Nat.not_le.2 hlarge)

end

end Catalog

/-! ## Two specifications -/

namespace Disk

/-- A disk with a specification in `/w/specs` and another in `/w/sub/specs`, seen from `/w`. -/
def twoSpecs : Disk where
  nodes := [(["w"], .directory 0), (["w", "specs"], .directory 0),
    (["w", "specs", "a.feature"], .file .empty 0 false), (["w", "sub"], .directory 0),
    (["w", "sub", "specs"], .directory 0),
    (["w", "sub", "specs", "a.feature"], .file .empty 0 false)]
  current := ["w"]
  now := 0

theorem twoSpecs_isTree : twoSpecs.IsTree := by decide

/-- The path of `/w/specs` with slashes behind it. -/
def specsPath : Nat → Path
  | 0 => ⟨"/w/specs"⟩
  | k + 1 => ⟨(specsPath k).text ++ "/" ++ ""⟩

theorem specsPath_spec (k : Nat) :
    (specsPath k).text.utf8ByteSize = 8 + k ∧ '\x00' ∉ (specsPath k).text.toList ∧
      (specsPath k).isAbsolute = true ∧
        stepsOf (specsPath k) = [.slash, .enter "w", .enter "specs"] ++ List.replicate k .slash := by
  induction k with
  | zero => exact ⟨by decide, by decide, by decide, by decide⟩
  | succ k ih =>
    obtain ⟨hsize, hend, habsolute, hsteps⟩ := ih
    refine ⟨?_, ?_, ?_, ?_⟩
    · simp [specsPath, String.utf8ByteSize_append, hsize]
      rfl
    · simp [specsPath, hend]
    · rw [specsPath, String.append_empty, Path.isAbsolute_append]
      · exact habsolute
      · exact fun hempty => by simp [hempty] at hsize; omega
    · rw [stepsOf, specsPath, Path.pieces_slash, Path.pieces_empty, List.map_append]
      change stepsOf (specsPath k) ++ _ = _
      rw [hsteps, List.replicate_succ', List.append_assoc]
      rfl

theorem stat_specsPath {k : Nat} (hk : k < 4088) :
    twoSpecs.stat (specsPath k) = .ok (["w", "specs"], .directory 0) := by
  obtain ⟨hsize, hend, habsolute, hsteps⟩ := specsPath_spec k
  have hslashes : ∀ m, Leads twoSpecs m ["w", "specs"] (List.replicate k .slash) ["w", "specs"]
      (.directory 0) := by
    intro m
    clear hk hsize hend habsolute hsteps
    induction k with
    | zero => exact .here rfl
    | succ k ih => exact .stay (t := 0) rfl id ih
  have hnode : twoSpecs.node? ([] ++ ["w", "specs"]) = some (.directory 0) := rfl
  have hnames : Leads twoSpecs linkLimit [] [.enter "w", .enter "specs"] ["w", "specs"]
      (.directory 0) := twoSpecs_isTree.leads hnode (by simp)
  refine stat_eq_ok_iff.2 ⟨⟨hend, ?_, by rw [hsize, pathLimit]; omega⟩, ?_⟩
  · intro hempty
    simp [hempty] at hsize
    omega
  · rw [hsteps, origin, if_pos habsolute]
    exact .stay rfl id (hnames.append hslashes)

end Disk

namespace Catalog

open Disk

/-- From a directory of a tree a catalog that has read nothing loads one feature for each
specification file whose path is short enough for the system, in the order of the names; neither the
order in which the disk has its nodes nor a file that is too large makes a difference. -/
theorem load_lists (root : Path) (policy : LanguagePolicy) (d : Disk) (directory : Path)
    (htree : d.IsTree) (habsolute : (root / directory).isAbsolute = true) :
    (∃ found, Lists (start root policy) d directory Short found
        ((start root policy).load d directory).1) ∧
      (∀ ns : List (Address × Node), ns.Perm d.nodes →
        ((start root policy).load { d with nodes := ns } directory).1 =
          ((start root policy).load d directory).1) ∧
      ∀ a content t executable, d.node? a = some (.file content t executable) →
        SourceCache.sizeLimit < content.size →
          ((start root policy).load (d.erase a) directory).1 =
            ((start root policy).load d directory).1 :=
  ⟨exists_lists htree habsolute policy, fun _ hperm => load_of_perm policy htree habsolute hperm,
    fun _ _ _ _ ha hlarge => load_erase policy htree habsolute ha hlarge⟩

theorem load_lists_twoSpecs :
    twoSpecs.IsTree ∧ ((⟨"/w"⟩ : Path) / ⟨"specs"⟩).isAbsolute = true ∧
      (∃ found, Lists (start ⟨"/w"⟩ .default) twoSpecs ⟨"specs"⟩ Short found
        ((start ⟨"/w"⟩ .default).load twoSpecs ⟨"specs"⟩).1) ∧
      ((start ⟨"/w"⟩ .default).load { twoSpecs with nodes := twoSpecs.nodes.reverse } ⟨"specs"⟩).1 =
        ((start ⟨"/w"⟩ .default).load twoSpecs ⟨"specs"⟩).1 := by
  obtain ⟨hlists, hperm, -⟩ :=
    load_lists ⟨"/w"⟩ .default twoSpecs ⟨"specs"⟩ twoSpecs_isTree (by decide)
  exact ⟨twoSpecs_isTree, by decide, hlists, hperm _ (List.reverse_perm _)⟩

/-! ## Files that are left out -/

theorem size_join {p q : Path} (hp : p.text ≠ "") (hq : q.isAbsolute = false) :
    p.text.utf8ByteSize + q.text.utf8ByteSize ≤ (p / q).text.utf8ByteSize := by
  rcases Path.join_cases hp hq with ⟨a, rfl, hjoin⟩ | ⟨-, hjoin⟩
  · rw [hjoin]
    simp [String.utf8ByteSize_append]
  · rw [hjoin]
    simp [String.utf8ByteSize_append]

theorem not_short {root : Path} {name : String} (hroot : root.text ≠ "")
    (hname : Path.isAbsolute ⟨name⟩ = false)
    (hlong : pathLimit ≤ root.text.utf8ByteSize + name.utf8ByteSize) :
    ¬ Short (pathBelow root [name]) := by
  have hsize := size_join hroot hname
  exact Nat.not_lt.2 (hlong.trans hsize)

theorem load_specsPath :
    ((start ⟨"/w"⟩ .default).load twoSpecs (specsPath 4080)).1 = [] := by
  obtain ⟨hsize, -, habsolute, -⟩ := specsPath_spec 4080
  have hroot : (⟨"/w"⟩ : Path) / specsPath 4080 = specsPath 4080 := Path.join_of_isAbsolute habsolute
  obtain ⟨found, hlists⟩ : ∃ found, Lists (start ⟨"/w"⟩ .default) twoSpecs (specsPath 4080) Short
      found ((start ⟨"/w"⟩ .default).load twoSpecs (specsPath 4080)).1 :=
    exists_lists twoSpecs_isTree (by rw [hroot, habsolute]) .default
  have hne : (specsPath 4080).text ≠ "" := by
    intro hempty
    simp [hempty] at hsize
  have hempty : found = [] := by
    refine List.eq_nil_iff_forall_not_mem.2 fun names hnames => ?_
    obtain ⟨content, ⟨a, t, m, x, hstat, hnode⟩, -, -, hshort⟩ := (hlists.mem_iff names).1 hnames
    have hroot' : (start ⟨"/w"⟩ .default).root / specsPath 4080 = specsPath 4080 := hroot
    rw [hroot'] at hstat hshort
    rw [stat_specsPath (by omega)] at hstat
    cases hstat
    have hmem := (twoSpecs_isTree.node?_eq_some_iff (by simp)).1 hnode
    have hnames : names = ["a.feature"] := by
      simp only [twoSpecs, List.mem_cons, Prod.mk.injEq] at hmem
      simp_all
    rw [hnames] at hshort
    have hlimit : pathLimit ≤ (specsPath 4080).text.utf8ByteSize + "a.feature".utf8ByteSize := by
      rw [hsize]
      decide
    exact not_short hne (by decide) hlimit hshort
  have hreads := hlists.reads
  rw [hempty] at hreads
  exact List.forall₂_nil_left_iff.1 hreads

theorem load_sub : ((start ⟨"sub"⟩ .default).load twoSpecs ⟨"specs"⟩).1 = [] := by
  have hbelow : twoSpecs.filesBelow (⟨"sub"⟩ / ⟨"specs"⟩) = [(["a.feature"], 0)] := by decide
  have hextension : Path.extension? ⟨"a.feature"⟩ = some extension := by decide
  simp only [load, featureFiles, start, hbelow, List.map_cons, List.map_nil, List.filter_cons,
    List.filter_nil, List.getLast?_singleton, Option.bind_some, hextension, decide_true, if_true,
    List.mergeSort_singleton]
  rfl

/-- A file is left out whose path is too long for the system, and below a relative root a file is
looked for under the root once more. -/
theorem not_lists_twoSpecs : twoSpecs.IsTree ∧
    (¬ ∃ found, Lists (start ⟨"/w"⟩ .default) twoSpecs (specsPath 4080) (fun _ => True) found
      ((start ⟨"/w"⟩ .default).load twoSpecs (specsPath 4080)).1) ∧
    ¬ ∃ found, Lists (start ⟨"sub"⟩ .default) twoSpecs ⟨"specs"⟩ (fun _ => True) found
      ((start ⟨"sub"⟩ .default).load twoSpecs ⟨"specs"⟩).1 := by
  refine ⟨twoSpecs_isTree, ?_, ?_⟩
  · rintro ⟨found, hlists⟩
    obtain ⟨hsize, -, habsolute, -⟩ := specsPath_spec 4080
    have hroot : (start ⟨"/w"⟩ .default).root / specsPath 4080 = specsPath 4080 :=
      Path.join_of_isAbsolute habsolute
    have hne : (specsPath 4080).text ≠ "" := by
      intro hempty
      simp [hempty] at hsize
    have hmem : ["a.feature"] ∈ found := by
      rw [hlists.mem_iff, hroot]
      refine ⟨.empty, ⟨_, 0, 0, false, stat_specsPath (by omega), rfl⟩, ?_, by decide, trivial⟩
      rw [extension?_pathBelow hne (by decide) (by simp)]
      decide
    exact hlists.features_ne_nil hmem load_specsPath
  · rintro ⟨found, hlists⟩
    have hmem : ["a.feature"] ∈ found := by
      rw [hlists.mem_iff]
      exact ⟨.empty, ⟨["w", "sub", "specs"], 0, 0, false, rfl, rfl⟩, by decide, by decide, trivial⟩
    exact hlists.features_ne_nil hmem load_sub

end Catalog

end SpecCoverage
