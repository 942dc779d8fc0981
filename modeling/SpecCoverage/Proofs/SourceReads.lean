-- SUMMARY: Reading through the source cache: what one read says and keeps, and which paths share an entry.
import SpecCoverage.Catalog
import SpecCoverage.Proofs.Walks

/-!
# Reads through the cache

A read is answered from the cache where the path has an entry, and otherwise by the disk; only what
the disk had is kept. `Read` says this for one read. An entry belongs to what a path names beyond the
place where it starts, so the spellings of a path share it.
-/
namespace SpecCoverage

namespace SourceCache

/-! ## Entries and the disk -/

/-- What the entry of a path is kept under. -/
def key? (d : Disk) (p : Path) : Option (List Path.Part) :=
  (absolute d p).toOption.map Path.parts

/-- The text of a file as the disk has it at the absolute path. -/
def onDisk (d : Disk) (p : Path) : Except FileError String := do
  readText d (← absolute d p)

/-- What a file holds at the absolute path. -/
def content (d : Disk) (p : Path) : Except FileError ByteArray := do
  d.read (← absolute d p)

theorem readText_eq_ok_iff {d : Disk} {p : Path} {text : String} :
    readText d p = .ok text ↔ ∃ content, d.read p = .ok content ∧ content.size ≤ sizeLimit ∧
      text = Text.Utf8.text content := by
  unfold readText Disk.read
  cases d.stat p with
  | error e => exact iff_of_false nofun nofun
  | ok found =>
    obtain ⟨a, n⟩ := found
    cases n with
    | file content =>
      by_cases hlarge : content.size > sizeLimit
      · refine iff_of_false ?_ ?_
        · simp [bind, Except.bind, hlarge]
        · rintro ⟨_, ⟨⟩, hsize, -⟩
          omega
      · simp [bind, Except.bind, hlarge, Nat.le_of_not_lt hlarge, eq_comm]
    | directory | link => exact iff_of_false nofun nofun

/-- The disk has a text for a file that is not too large, and decodes what it holds. -/
theorem onDisk_eq_ok_iff {d : Disk} {p : Path} {text : String} :
    onDisk d p = .ok text ↔ ∃ bytes, content d p = .ok bytes ∧ bytes.size ≤ sizeLimit ∧
      text = Text.Utf8.text bytes := by
  unfold onDisk content
  cases absolute d p with
  | error e => exact iff_of_false nofun nofun
  | ok q => exact readText_eq_ok_iff

/-- Two spellings of a path that can be read have one text. -/
theorem onDisk_unique {d : Disk} {p q : Path} {text text' : String} (hkey : key? d p = key? d q)
    (hp : onDisk d p = .ok text) (hq : onDisk d q = .ok text') : text = text' := by
  unfold onDisk at hp hq
  unfold key? at hkey
  cases hpa : absolute d p with
  | error e => rw [hpa] at hp; cases hp
  | ok p' =>
    cases hqa : absolute d q with
    | error e => rw [hqa] at hq; cases hq
    | ok q' =>
      rw [hpa] at hp hkey
      rw [hqa] at hq hkey
      obtain ⟨content, hcontent, -, rfl⟩ := readText_eq_ok_iff.1 hp
      obtain ⟨content', hcontent', -, rfl⟩ := readText_eq_ok_iff.1 hq
      have hparts : p'.parts = q'.parts := Option.some.inj hkey
      unfold Disk.read at hcontent hcontent'
      split at hcontent <;> try cases hcontent
      rename_i hstat
      split at hcontent' <;> try cases hcontent'
      rename_i hstat'
      obtain ⟨-, hnode⟩ := Disk.stat_eq_of_parts_eq hparts hstat hstat'
      cases hnode
      rfl

/-! ## One read -/

/-- What a read of a path with a cache may say, and the cache after it. -/
inductive Read (c : SourceCache) (d : Disk) (p : Path) :
    Except FileError String → SourceCache → Prop
  | kept {k : List Path.Part} {text : String} (hkey : key? d p = some k)
    (hentry : c.entries.lookup k = some text) : Read c d p (.ok text) c
  | fresh {k : List Path.Part} {text : String} (hkey : key? d p = some k)
    (hentry : c.entries.lookup k = none) (hdisk : onDisk d p = .ok text) :
    Read c d p (.ok text) ⟨(k, text) :: c.entries⟩
  | failed {e : FileError} (hentry : ∀ k, key? d p = some k → c.entries.lookup k = none)
    (hdisk : onDisk d p = .error e) : Read c d p (.error e) c

theorem key?_of_absolute_ok {d : Disk} {p q : Path} (h : absolute d p = .ok q) :
    key? d p = some q.parts := by
  rw [key?, h]
  rfl

theorem onDisk_of_absolute_ok {d : Disk} {p q : Path} (h : absolute d p = .ok q) :
    onDisk d p = readText d q := by
  rw [onDisk, h]
  rfl

theorem of_absolute_error {d : Disk} {p : Path} {e : FileError} (h : absolute d p = .error e) :
    key? d p = none ∧ onDisk d p = .error e := by
  rw [key?, onDisk, h]
  exact ⟨rfl, rfl⟩

theorem read_spec (c : SourceCache) (d : Disk) (p : Path) :
    Read c d p (c.read d p).1 (c.read d p).2 := by
  unfold read
  cases hpath : absolute d p with
  | error e =>
    obtain ⟨hkey, hdisk⟩ := of_absolute_error hpath
    exact .failed (fun k hk => by rw [hkey] at hk; cases hk) hdisk
  | ok q =>
    have hkey := key?_of_absolute_ok hpath
    simp only
    cases hentry : c.entries.lookup q.parts with
    | some text => exact .kept hkey hentry
    | none =>
      rw [← onDisk_of_absolute_ok hpath]
      cases hread : onDisk d p with
      | ok text => exact .fresh hkey hentry hread
      | error e =>
        refine .failed (fun k hk => ?_) hread
        rw [hkey] at hk
        cases hk
        exact hentry

/-- A read leaves no choice of what it says and keeps. -/
theorem Read.eq {c c' : SourceCache} {d : Disk} {p : Path} {result : Except FileError String}
    (h : Read c d p result c') : c.read d p = (result, c') := by
  unfold read
  cases hpath : absolute d p with
  | error e =>
    obtain ⟨hkey, hdisk⟩ := of_absolute_error hpath
    cases h with
    | kept hk | fresh hk =>
      rw [hkey] at hk
      cases hk
    | failed _ hd =>
      rw [hdisk] at hd
      cases hd
      rfl
  | ok q =>
    have hkey := key?_of_absolute_ok hpath
    have hdisk := onDisk_of_absolute_ok hpath
    cases h with
    | kept hk hentry =>
      cases hkey.symm.trans hk
      simp only [hentry]
    | fresh hk hentry hd =>
      cases hkey.symm.trans hk
      simp only [hentry, ← hdisk, hd]
    | failed hentry hd => simp only [hentry _ hkey, ← hdisk, hd]

/-- A read adds the entry of its path where there is none. -/
theorem Read.lookup {c c' : SourceCache} {d : Disk} {p : Path} {result : Except FileError String}
    (h : Read c d p result c') (k : List Path.Part) :
    c'.entries.lookup k =
      (c.entries.lookup k).or (if key? d p = some k then result.toOption else none) := by
  cases h with
  | @kept k' text hkey hentry =>
    by_cases hk : k' = k
    · rw [← hk, hentry, Option.some_or]
    · simp [hkey, hk]
  | @fresh k' text hkey hentry _ =>
    by_cases hk : k' = k
    · simp [← hk, hentry, hkey, Except.toOption]
    · have hne : (k == k') = false := beq_eq_false_iff_ne.2 (Ne.symm hk)
      simp [List.lookup_cons, hne, hkey, hk]
  | failed => simp [Except.toOption]

/-! ## Spellings of a path -/

/-- An entry is kept under what a path names, behind the current directory where it is relative. -/
theorem key?_of_text_ne_empty (d : Disk) {p : Path} (hp : p.text ≠ "") :
    key? d p =
      some (if p.isAbsolute then .root :: p.inner else d.current.path.parts ++ p.inner) := by
  unfold key? absolute
  cases habsolute : p.isAbsolute with
  | true =>
    simp only [if_true, Except.toOption, Option.map_some]
    rw [Path.parts_of_isAbsolute habsolute]
  | false =>
    have hdisk := Disk.absolute_of_relative d hp habsolute
    have hparts := (Disk.parts_absolute hp habsolute hdisk).2
    simp only [Bool.false_eq_true, if_false, hdisk, Except.toOption, Option.map_some, hparts]

theorem isAbsolute_of_absolute {d : Disk} {p q : Path} (h : absolute d p = .ok q) :
    q.isAbsolute = true := by
  unfold absolute at h
  split at h
  · rename_i hp
    cases h
    exact hp
  · rename_i hrel
    have hne : p.text ≠ "" := by
      intro hempty
      rw [Disk.absolute, if_pos hempty] at h
      cases h
    exact (Disk.parts_absolute hne (by simpa using hrel) h).1

/-- Two paths that a root is continued with name one path: by more slashes or dots, by the absolute
path in the place of the relative one, and by any number of such changes. -/
inductive Spells (root : Path) (d : Disk) : Path → Path → Prop
  | respelled {p q : Path} (h : p.Respells q) : Spells root d p q
  | absolute {p q : Path} (h : SourceCache.absolute d (root / p) = .ok q) : Spells root d p q
  | symm {p q : Path} (h : Spells root d p q) : Spells root d q p
  | trans {p q r : Path} (h : Spells root d p q) (h' : Spells root d q r) : Spells root d p r

theorem key?_respells (root : Path) (d : Disk) {p q : Path} (h : p.Respells q) :
    key? d (root / p) = key? d (root / q) := by
  obtain ⟨habsolute, hinner, hp, hq⟩ := h.keeps
  cases hrel : p.isAbsolute with
  | true =>
    have hrelq := habsolute.symm.trans hrel
    rw [Path.join_of_isAbsolute hrel, Path.join_of_isAbsolute hrelq, key?_of_text_ne_empty d hp,
      key?_of_text_ne_empty d hq, habsolute, hinner]
  | false =>
    have hrelq := habsolute.symm.trans hrel
    by_cases hroot : root.text = ""
    · obtain rfl : root = ⟨""⟩ := congrArg Path.mk hroot
      rw [Path.empty_join hrel, Path.empty_join hrelq, key?_of_text_ne_empty d hp,
        key?_of_text_ne_empty d hq, habsolute, hinner]
    · rw [key?_of_text_ne_empty d (Path.join_text_ne_empty hroot hrel),
        key?_of_text_ne_empty d (Path.join_text_ne_empty hroot hrelq),
        Path.isAbsolute_join hroot hrel, Path.isAbsolute_join hroot hrelq,
        Path.inner_join root hrel, Path.inner_join root hrelq, hinner]

/-- The spellings of a path share an entry. -/
theorem Spells.key?_eq {root : Path} {d : Disk} {p q : Path} (h : Spells root d p q) :
    key? d (root / p) = key? d (root / q) := by
  induction h with
  | respelled h => exact key?_respells root d h
  | @absolute p q h =>
    have hq := isAbsolute_of_absolute h
    rw [Path.join_of_isAbsolute hq, key?, h, key?, SourceCache.absolute, if_pos hq]
  | symm _ ih => exact ih.symm
  | trans _ _ ih ih' => exact ih.trans ih'

end SourceCache

/-! ## Reads of a catalog -/

/-- A read of a source file: the disk that it finds, the file, what is read, and the cache before and
after it. -/
structure SourceRead where
  disk : Disk
  file : Path
  before : SourceCache
  result : Except FileError String
  after : SourceCache

namespace SourceRead

variable (root : Path)

def key? (r : SourceRead) : Option (List Path.Part) :=
  SourceCache.key? r.disk (root / r.file)

/-- The reads of files one after the other. -/
def reading (d : Disk) (cache : SourceCache) : List Path → List SourceRead
  | [] => []
  | file :: files =>
    ⟨d, file, cache, (cache.read d (root / file)).1, (cache.read d (root / file)).2⟩ ::
      reading d (cache.read d (root / file)).2 files

/-- The cache after reads. -/
def cacheAfter (cache : SourceCache) (rs : List SourceRead) : SourceCache :=
  rs.foldl (fun _ r => r.after) cache

variable {root}

theorem map_file_reading {d : Disk} {cache : SourceCache} (files : List Path) :
    (reading root d cache files).map (·.file) = files := by
  induction files generalizing cache with
  | nil => rfl
  | cons file files ih => rw [reading, List.map_cons, ih]

theorem disk_of_mem_reading {d : Disk} {cache : SourceCache} {files : List Path} {r : SourceRead}
    (hr : r ∈ reading root d cache files) : r.disk = d := by
  induction files generalizing cache with
  | nil => cases hr
  | cons file files ih =>
    rcases List.mem_cons.1 hr with rfl | hr
    · rfl
    · exact ih hr

end SourceRead

namespace Catalog

/-- The feature that a read of a file below a directory gives. -/
def featureOf? (c : Catalog) (directory : Path) (r : SourceRead) : Option Feature :=
  r.result.toOption.map
    (Feature.read c.policy (c.relative r.file) (Folder.ofFile (c.root / directory) r.file))

/-- The reads of the files below a directory. -/
def loadReads (c : Catalog) (d : Disk) (directory : Path) : List SourceRead :=
  SourceRead.reading c.root d c.cache (featureFiles d (c.root / directory))

theorem loadNext_eq (d : Disk) (directory : Path) (fs : List Feature) (c : Catalog) (file : Path) :
    loadNext d (c.root / directory) (fs, c) file =
      (fs ++ [(⟨d, file, c.cache, (c.cache.read d (c.root / file)).1,
          (c.cache.read d (c.root / file)).2⟩ : SourceRead)].filterMap (c.featureOf? directory),
        { c with cache := (c.cache.read d (c.root / file)).2 }) := by
  unfold loadNext loadFile sourceText featureOf?
  generalize c.cache.read d (c.root / file) = read
  obtain ⟨result, cache⟩ := read
  cases result with
  | ok text => rfl
  | error e => exact congrArg (·, { c with cache := cache }) (List.append_nil fs).symm

/-- Features are loaded by reading their files one after the other. -/
theorem load_eq (c : Catalog) (d : Disk) (directory : Path) :
    c.load d directory = ((c.loadReads d directory).filterMap (c.featureOf? directory),
      { c with cache := SourceRead.cacheAfter c.cache (c.loadReads d directory) }) := by
  -- For any features loaded before and any cache that they left.
  have hfold (files : List Path) (fs : List Feature) (cache : SourceCache) :
      files.foldl (loadNext d (c.root / directory)) (fs, { c with cache := cache }) =
        (fs ++ (SourceRead.reading c.root d cache files).filterMap (c.featureOf? directory),
          { c with cache :=
              SourceRead.cacheAfter cache (SourceRead.reading c.root d cache files) }) := by
    induction files generalizing fs cache with
    | nil => rw [SourceRead.reading, List.filterMap_nil, List.append_nil]; rfl
    | cons file files ih =>
      have hnext := loadNext_eq d directory fs { c with cache := cache } file
      simp only at hnext
      rw [List.foldl_cons, hnext, ih, List.append_assoc]
      exact congrArg (fs ++ ·, _) List.filterMap_append.symm
  have hload := hfold (featureFiles d (c.root / directory)) [] c.cache
  rw [List.nil_append] at hload
  exact hload

end Catalog

end SpecCoverage
