-- SUMMARY: What a catalog reads from one clearing to the next: each path once, whatever is asked and whatever becomes of the files.
import Mathlib.Data.List.DropRight
import Mathlib.Data.List.Dedup
import SpecCoverage.Proofs.SourceReads

/-!
# Periods of a catalog

A catalog is asked one thing after the other, and between two calls anything may happen to the disk,
so each call comes with the disk that it finds (`Turn`). `Remembered` says what holds of the reads
since the catalog was cleared: it holds of none and is kept by each read.
-/
namespace SpecCoverage

namespace SourceRead

variable (root : Path)

/-- Was the path of this key read? -/
def Keeps (r : SourceRead) (k : List Path.Part) : Prop :=
  r.result.isOk = true ∧ r.key? root = some k

instance (r : SourceRead) (k : List Path.Part) : Decidable (r.Keeps root k) :=
  inferInstanceAs (Decidable (_ ∧ _))

/-- What the disk that a read finds has for its path. -/
def onDisk (r : SourceRead) : Except FileError String :=
  SourceCache.onDisk r.disk (root / r.file)

/-- What the file of a read holds. -/
def content (r : SourceRead) : Except FileError ByteArray :=
  SourceCache.content r.disk (root / r.file)

/-- Is this what reading with the cache gives? -/
def IsRead (r : SourceRead) : Prop :=
  SourceCache.Read r.before r.disk (root / r.file) r.result r.after

/-- What holds of reads that began with an empty cache, and of the cache after them. -/
structure Remembered (rs : List SourceRead) (cache : SourceCache) : Prop where
  /-- The cache has the text of the first read of each path. -/
  entry : ∀ k, cache.entries.lookup k =
    (rs.find? fun q => q.Keeps root k).bind (·.result.toOption)
  keys_nodup : (cache.entries.map (·.1)).Nodup
  /-- Until a path is read, the disk answers. -/
  first : ∀ past r, past ++ [r] <+: rs →
    (∀ k, r.key? root = some k → ∀ q ∈ past, ¬ q.Keeps root k) → r.result = r.onDisk root
  /-- Then the first read of the path does. -/
  again : ∀ past r k q, past ++ [r] <+: rs → r.key? root = some k →
    past.find? (fun q => q.Keeps root k) = some q → r.result = q.result
  failed : ∀ r ∈ rs, ∀ e, r.result = .error e → r.after = r.before

variable {root}

theorem Keeps.exists_text {r : SourceRead} {k : List Path.Part} (h : r.Keeps root k) :
    ∃ text, r.result = .ok text := by
  have hok := h.1
  cases hresult : r.result with
  | ok text => exact ⟨text, rfl⟩
  | error e =>
    rw [hresult] at hok
    cases hok

theorem IsRead.exists_keeps {r : SourceRead} {text : String} (h : r.IsRead root)
    (hok : r.result = .ok text) : ∃ k, r.Keeps root k := by
  obtain ⟨d, file, before, result, after⟩ := r
  change SourceCache.Read before d (root / file) result after at h
  cases h with
  | @kept k _ hkey | @fresh k _ hkey => exact ⟨k, rfl, hkey⟩
  | failed => cases hok

theorem isRead_of_mem_reading {d : Disk} {cache : SourceCache} {files : List Path}
    {r : SourceRead} (hr : r ∈ reading root d cache files) : r.IsRead root := by
  induction files generalizing cache with
  | nil => cases hr
  | cons file files ih =>
    rcases List.mem_cons.1 hr with rfl | hr
    · exact SourceCache.read_spec cache d (root / file)
    · exact ih hr

namespace Remembered

variable {rs : List SourceRead} {cache : SourceCache} {r : SourceRead}

theorem nil : Remembered root [] .empty where
  entry _ := rfl
  keys_nodup := .nil
  first _ _ h := by simp at h
  again _ _ _ _ h := by simp at h
  failed := by simp

/-! ## One more read -/

/-- An entry is what the first read of its path said. -/
theorem exists_of_lookup (m : Remembered root rs cache) {k : List Path.Part} {text : String}
    (h : cache.entries.lookup k = some text) :
    ∃ q, rs.find? (fun q => q.Keeps root k) = some q ∧ q.result = .ok text := by
  rw [m.entry k] at h
  obtain ⟨q, hfind, hresult⟩ := Option.bind_eq_some_iff.1 h
  refine ⟨q, hfind, ?_⟩
  cases hq : q.result with
  | ok text' =>
    rw [hq] at hresult
    exact congrArg Except.ok (Option.some.inj hresult)
  | error e =>
    rw [hq] at hresult
    cases hresult

theorem entry_concat (m : Remembered root rs cache) (hread : r.IsRead root)
    (hbefore : r.before = cache) (k : List Path.Part) :
    r.after.entries.lookup k =
      ((rs ++ [r]).find? fun q => q.Keeps root k).bind (·.result.toOption) := by
  have hkey : SourceCache.key? r.disk (root / r.file) = r.key? root := rfl
  rw [hread.lookup k, hbefore, m.entry k, List.find?_append, hkey]
  cases hfind : rs.find? fun q => q.Keeps root k with
  | some q =>
    obtain ⟨text, htext⟩ := Keeps.exists_text (by simpa using List.find?_some hfind)
    simp [htext, Except.toOption]
  | none =>
    rw [Option.none_or, Option.bind_none, Option.none_or, List.find?_singleton]
    cases hresult : r.result with
    | error e => simp [Keeps, hresult, Except.toOption, Except.isOk, Except.toBool]
    | ok text =>
      by_cases hk : r.key? root = some k <;>
        simp [Keeps, hresult, hk, Except.toOption, Except.isOk, Except.toBool]

theorem keys_nodup_concat (m : Remembered root rs cache) (hread : r.IsRead root)
    (hbefore : r.before = cache) : (r.after.entries.map (·.1)).Nodup := by
  subst hbefore
  obtain ⟨d, file, before, result, after⟩ := r
  change SourceCache.Read before d (root / file) result after at hread
  cases hread with
  | kept | failed => exact m.keys_nodup
  | fresh hkey hentry hdisk =>
    rw [List.map_cons, List.nodup_cons]
    refine ⟨?_, m.keys_nodup⟩
    intro hmem
    obtain ⟨e, he, hek⟩ := List.mem_map.1 hmem
    have hne := List.lookup_eq_none_iff.1 hentry e he
    simp [hek] at hne

theorem first_concat (m : Remembered root rs cache) (hread : r.IsRead root)
    (hbefore : r.before = cache)
    (hnone : ∀ k, r.key? root = some k → ∀ q ∈ rs, ¬ q.Keeps root k) :
    r.result = r.onDisk root := by
  subst hbefore
  obtain ⟨d, file, before, result, after⟩ := r
  change SourceCache.Read before d (root / file) result after at hread
  cases hread with
  | @kept k text hkey hentry =>
    obtain ⟨q, hfind, -⟩ := m.exists_of_lookup hentry
    have hkeeps : q.Keeps root k := by simpa using List.find?_some hfind
    exact absurd hkeeps (hnone k hkey q (List.mem_of_find?_eq_some hfind))
  | fresh hkey hentry hdisk => exact hdisk.symm
  | failed hentry hdisk => exact hdisk.symm

theorem again_concat (m : Remembered root rs cache) (hread : r.IsRead root)
    (hbefore : r.before = cache) {k : List Path.Part} {q : SourceRead}
    (hkey : r.key? root = some k) (hfind : rs.find? (fun q => q.Keeps root k) = some q) :
    r.result = q.result := by
  subst hbefore
  obtain ⟨text, htext⟩ := Keeps.exists_text (by simpa using List.find?_some hfind)
  have hentry : r.before.entries.lookup k = some text := by
    rw [m.entry k, hfind, Option.bind_some, htext]
    rfl
  obtain ⟨d, file, before, result, after⟩ := r
  change SourceCache.Read before d (root / file) result after at hread
  cases hread with
  | kept hkey' hentry' =>
    obtain rfl := Option.some.inj (hkey.symm.trans hkey')
    rw [htext, Option.some.inj (hentry'.symm.trans hentry)]
  | fresh hkey' hentry' _ =>
    obtain rfl := Option.some.inj (hkey.symm.trans hkey')
    rw [hentry] at hentry'
    cases hentry'
  | failed hentry' _ =>
    exact absurd ((hentry' k hkey).symm.trans hentry) (by simp)

theorem failed_of_isRead (hread : r.IsRead root) {e : FileError} (he : r.result = .error e) :
    r.after = r.before := by
  obtain ⟨d, file, before, result, after⟩ := r
  change SourceCache.Read before d (root / file) result after at hread
  cases hread with
  | kept | fresh => cases he
  | failed => rfl

/-- One more read keeps what holds of the reads. -/
theorem concat (m : Remembered root rs cache) (hread : r.IsRead root) (hbefore : r.before = cache) :
    Remembered root (rs ++ [r]) r.after where
  entry := m.entry_concat hread hbefore
  keys_nodup := m.keys_nodup_concat hread hbefore
  first := by
    intro past r' hpast hnone
    rcases List.prefix_concat_iff.1 hpast with heq | hbegins
    · obtain ⟨rfl, hlast⟩ := List.append_inj' heq rfl
      obtain rfl := List.singleton_inj.1 hlast
      exact m.first_concat hread hbefore hnone
    · exact m.first past r' hbegins hnone
  again := by
    intro past r' k q hpast hkey hfind
    rcases List.prefix_concat_iff.1 hpast with heq | hbegins
    · obtain ⟨rfl, hlast⟩ := List.append_inj' heq rfl
      obtain rfl := List.singleton_inj.1 hlast
      exact m.again_concat hread hbefore hkey hfind
    · exact m.again past r' k q hbegins hkey hfind
  failed := by
    intro r' hr' e he
    rcases List.mem_append.1 hr' with hr' | hr'
    · exact m.failed r' hr' e he
    · obtain rfl := List.mem_singleton.1 hr'
      exact failed_of_isRead hread he

/-- So do the reads of files one after the other. -/
theorem append_reading (m : Remembered root rs cache) (d : Disk) (files : List Path) :
    Remembered root (rs ++ reading root d cache files)
      (cacheAfter cache (reading root d cache files)) := by
  induction files generalizing rs cache with
  | nil =>
    rw [reading, List.append_nil]
    exact m
  | cons file files ih =>
    have hread := SourceCache.read_spec cache d (root / file)
    have hnext := ih (m.concat (r := ⟨d, file, cache, _, _⟩) hread rfl)
    rw [List.append_assoc] at hnext
    exact hnext

/-! ## What has been read -/

/-- The first read of a path is answered by the disk. -/
theorem onDisk_of_find? (m : Remembered root rs cache) {k : List Path.Part} {q : SourceRead}
    (hfind : rs.find? (fun q => q.Keeps root k) = some q) : q.result = q.onDisk root := by
  obtain ⟨hkeeps, past, later, rfl, hpast⟩ := List.find?_eq_some_iff_append.1 hfind
  have hbegins : past ++ [q] <+: past ++ q :: later := ⟨later, by simp⟩
  refine m.first past q hbegins ?_
  intro k' hk' q' hq' hkeeps'
  have hkey : q.Keeps root k := by simpa using hkeeps
  obtain rfl := Option.some.inj (hk'.symm.trans hkey.2)
  simpa [hkeeps'] using hpast q' hq'

/-- What a read says is what the first read of its path says. -/
theorem exists_find? (m : Remembered root rs cache) (hreads : ∀ r ∈ rs, r.IsRead root)
    {text : String} (hr : r ∈ rs) (hok : r.result = .ok text) :
    ∃ k q, r.key? root = some k ∧ rs.find? (fun q => q.Keeps root k) = some q ∧
      q.result = .ok text := by
  obtain ⟨k, hkeeps⟩ := (hreads r hr).exists_keeps hok
  obtain ⟨past, later, rfl⟩ := List.append_of_mem hr
  have hbegins : past ++ [r] <+: past ++ r :: later := ⟨later, by simp⟩
  cases hfind : past.find? fun q => q.Keeps root k with
  | some q =>
    have hagain := m.again past r k q hbegins hkeeps.2 hfind
    refine ⟨k, q, hkeeps.2, ?_, hagain ▸ hok⟩
    rw [List.find?_append, hfind, Option.some_or]
  | none =>
    refine ⟨k, r, hkeeps.2, ?_, hok⟩
    rw [List.find?_append, hfind, Option.none_or, List.find?_cons_of_pos (by simpa using hkeeps)]

/-- The cache has one entry for each path that was read. -/
theorem size_eq (m : Remembered root rs cache) :
    cache.size = ((rs.filter (·.result.isOk)).filterMap (·.key? root)).dedup.length := by
  have hperm : (cache.entries.map (·.1)).Perm
      ((rs.filter (·.result.isOk)).filterMap (·.key? root)).dedup := by
    refine (List.perm_ext_iff_of_nodup m.keys_nodup (List.nodup_dedup _)).2 fun k => ?_
    have hmem : k ∈ cache.entries.map (·.1) ↔ (cache.entries.lookup k).isSome := by
      rw [← Option.ne_none_iff_isSome, Ne, List.lookup_eq_none_iff]
      simp
    rw [hmem, m.entry k, List.mem_dedup, List.mem_filterMap]
    constructor
    · intro hsome
      obtain ⟨text, htext⟩ := Option.isSome_iff_exists.1 hsome
      obtain ⟨q, hfind, -⟩ := Option.bind_eq_some_iff.1 htext
      have hkeeps : q.Keeps root k := by simpa using List.find?_some hfind
      exact ⟨q, List.mem_filter.2 ⟨List.mem_of_find?_eq_some hfind, hkeeps.1⟩, hkeeps.2⟩
    · rintro ⟨q, hq, hkey⟩
      obtain ⟨hq, hok⟩ := List.mem_filter.1 hq
      have hkeeps : q.Keeps root k := ⟨hok, hkey⟩
      cases hfind : rs.find? fun q => q.Keeps root k with
      | none => exact absurd hkeeps (by simpa using List.find?_eq_none.1 hfind q hq)
      | some q' =>
        obtain ⟨text, htext⟩ := Keeps.exists_text (by simpa using List.find?_some hfind)
        simp [htext, Except.toOption]
  rw [SourceCache.size, ← hperm.length_eq, List.length_map]

end Remembered

/-- What reads say from one clearing of a catalog to the next, and how many paths are kept after
them. -/
structure ReadOnce (root : Path) (rs : List SourceRead) (kept : Nat) : Prop where
  /-- A read says what the file held when its path was first read. -/
  text : ∀ r ∈ rs, ∀ text, r.result = .ok text → ∃ k q bytes, r.key? root = some k ∧
    rs.find? (fun q => q.Keeps root k) = some q ∧ q.content root = .ok bytes ∧
      bytes.size ≤ SourceCache.sizeLimit ∧ text = Text.Utf8.text bytes
  /-- Until then it says what the disk has. -/
  first : ∀ past r, past ++ [r] <+: rs →
    (∀ k, r.key? root = some k → ∀ q ∈ past, ¬ q.Keeps root k) → r.result = r.onDisk root
  /-- That is an error unless there is a file, and one that is not too large. -/
  refused : ∀ past r, past ++ [r] <+: rs →
    (∀ k, r.key? root = some k → ∀ q ∈ past, ¬ q.Keeps root k) →
      (∀ bytes, r.content root = .ok bytes → SourceCache.sizeLimit < bytes.size) →
        ∃ e, r.result = .error e
  failed : ∀ r ∈ rs, ∀ e, r.result = .error e → r.after = r.before
  kept_eq : kept = ((rs.filter (·.result.isOk)).filterMap (·.key? root)).dedup.length

theorem Remembered.readOnce {rs : List SourceRead} {cache : SourceCache}
    (m : Remembered root rs cache) (hreads : ∀ r ∈ rs, r.IsRead root) :
    ReadOnce root rs cache.size where
  text := by
    intro r hr text hok
    obtain ⟨k, q, hkey, hfind, hq⟩ := m.exists_find? hreads hr hok
    have hdisk := (m.onDisk_of_find? hfind).symm.trans hq
    obtain ⟨bytes, hbytes, hsize, htext⟩ := SourceCache.onDisk_eq_ok_iff.1 hdisk
    exact ⟨k, q, bytes, hkey, hfind, hbytes, hsize, htext⟩
  first := m.first
  refused := by
    intro past r hpast hnone hlarge
    rw [m.first past r hpast hnone]
    cases hdisk : r.onDisk root with
    | error e => exact ⟨e, rfl⟩
    | ok text =>
      obtain ⟨bytes, hbytes, hsize, -⟩ := SourceCache.onDisk_eq_ok_iff.1 hdisk
      exact absurd hsize (Nat.not_le.2 (hlarge bytes hbytes))
  failed := m.failed
  kept_eq := m.size_eq

end SourceRead

/-! ## Calls -/

namespace Catalog

/-- What can be asked of a catalog. -/
inductive Call where
  | load (directory : Path)
  | loadFile (file : Path) (folder : String)
  | sourceText (file : Path)
  | clear
  deriving DecidableEq

inductive Reply where
  | features (fs : List Feature)
  | feature (result : Except CatalogError Feature)
  | text (result : Except CatalogError String)
  | done

/-- A call and the disk that it finds. -/
structure Turn where
  disk : Disk
  call : Call

/-- What was asked, what was read for it and replied, and the catalog after it. -/
structure Exchange where
  turn : Turn
  reads : List SourceRead
  reply : Reply
  after : Catalog

def reply (c : Catalog) (d : Disk) : Call → Reply × Catalog
  | .load directory => let (fs, c) := c.load d directory; (.features fs, c)
  | .loadFile file folder => let (result, c) := c.loadFile d file folder; (.feature result, c)
  | .sourceText file => let (result, c) := c.sourceText d file; (.text result, c)
  | .clear => (.done, c.clear)

/-- The reads of a call, one after the other. -/
def reads (c : Catalog) (d : Disk) : Call → List SourceRead
  | .load directory => c.loadReads d directory
  | .loadFile file _ | .sourceText file => SourceRead.reading c.root d c.cache [file]
  | .clear => []

def exchange (c : Catalog) (t : Turn) : Exchange where
  turn := t
  reads := c.reads t.disk t.call
  reply := (c.reply t.disk t.call).1
  after := (c.reply t.disk t.call).2

/-- What was exchanged in some turns, and the catalog after them. -/
def run (c : Catalog) (ts : List Turn) : List Exchange × Catalog :=
  ts.foldl (fun r t => (r.1 ++ [r.2.exchange t], (r.2.exchange t).after)) ([], c)

/-- The reads since the catalog was last cleared. -/
def readsSinceCleared (es : List Exchange) : List SourceRead :=
  (es.rtakeWhile fun e => e.turn.call ≠ .clear).flatMap (·.reads)

/-- A reply is made from the reads of the call. -/
inductive Answers (c : Catalog) (d : Disk) : Call → List SourceRead → Reply → Prop
  | load {directory : Path} {rs : List SourceRead}
    (hfiles : rs.map (·.file) = featureFiles d (c.root / directory)) :
    Answers c d (.load directory) rs (.features (rs.filterMap (c.featureOf? directory)))
  | loadFile {file : Path} {folder : String} {r : SourceRead} (hfile : r.file = file) :
    Answers c d (.loadFile file folder) [r]
      (.feature ((r.result.mapError fun e => ⟨c.relative file, e⟩).map
        (Feature.read c.policy (c.relative file) folder)))
  | sourceText {file : Path} {r : SourceRead} (hfile : r.file = file) :
    Answers c d (.sourceText file) [r]
      (.text (r.result.mapError fun e => ⟨c.relative file, e⟩))
  | clear : Answers c d .clear [] .done

theorem answers (c : Catalog) (d : Disk) (call : Call) :
    Answers (start c.root c.policy) d call (c.reads d call) (c.reply d call).1 := by
  cases call with
  | load directory =>
    have hreply : (c.reply d (.load directory)).1 = .features (c.load d directory).1 := rfl
    rw [hreply, load_eq]
    exact .load (SourceRead.map_file_reading _)
  | loadFile file folder => exact .loadFile rfl
  | sourceText file => exact .sourceText rfl
  | clear => exact .clear

/-- Unless it clears it, a call leaves a catalog with the cache after its reads. -/
theorem reply_snd (c : Catalog) (d : Disk) {call : Call} (hcall : call ≠ .clear) :
    (c.reply d call).2 = { c with cache := SourceRead.cacheAfter c.cache (c.reads d call) } := by
  cases call with
  | load directory =>
    have hreply : (c.reply d (.load directory)).2 = (c.load d directory).2 := rfl
    rw [hreply, load_eq]
    rfl
  | loadFile file folder => rfl
  | sourceText file => rfl
  | clear => exact absurd rfl hcall

theorem reply_keeps (c : Catalog) (d : Disk) (call : Call) :
    (c.reply d call).2.root = c.root ∧ (c.reply d call).2.policy = c.policy := by
  by_cases hcall : call = .clear
  · rw [hcall]
    exact ⟨rfl, rfl⟩
  · rw [reply_snd c d hcall]
    exact ⟨rfl, rfl⟩

theorem reads_spec (c : Catalog) (d : Disk) (call : Call) :
    ∀ r ∈ c.reads d call, r.disk = d ∧ r.IsRead c.root := by
  intro r hr
  cases call with
  | load directory =>
    exact ⟨SourceRead.disk_of_mem_reading hr, SourceRead.isRead_of_mem_reading hr⟩
  | loadFile file folder =>
    exact ⟨SourceRead.disk_of_mem_reading hr, SourceRead.isRead_of_mem_reading hr⟩
  | sourceText file =>
    exact ⟨SourceRead.disk_of_mem_reading hr, SourceRead.isRead_of_mem_reading hr⟩
  | clear => cases hr

/-- A call adds its reads to those before it. -/
theorem remembered_reads {c : Catalog} {root : Path} {rs : List SourceRead} (hroot : c.root = root)
    (m : SourceRead.Remembered root rs c.cache) (d : Disk) (call : Call) :
    SourceRead.Remembered root (rs ++ c.reads d call)
      (SourceRead.cacheAfter c.cache (c.reads d call)) := by
  subst hroot
  cases call with
  | load directory => exact m.append_reading d _
  | loadFile file folder => exact m.append_reading d [file]
  | sourceText file => exact m.append_reading d [file]
  | clear =>
    rw [reads, List.append_nil]
    exact m

/-! ## Runs -/

variable {c : Catalog}

theorem run_concat (ts : List Turn) (t : Turn) :
    c.run (ts ++ [t]) =
      ((c.run ts).1 ++ [(c.run ts).2.exchange t], ((c.run ts).2.exchange t).after) := by
  rw [run, List.foldl_append]
  rfl

/-- Calls leave a catalog at its root. -/
@[simp] theorem run_root (c : Catalog) (ts : List Turn) : (c.run ts).2.root = c.root := by
  induction ts using List.reverseRecOn with
  | nil => rfl
  | append_singleton ts t ih =>
    rw [run_concat, ← ih]
    exact (reply_keeps _ _ _).1

/-- Calls leave a catalog with its policy. -/
@[simp] theorem run_policy (c : Catalog) (ts : List Turn) : (c.run ts).2.policy = c.policy := by
  induction ts using List.reverseRecOn with
  | nil => rfl
  | append_singleton ts t ih =>
    rw [run_concat, ← ih]
    exact (reply_keeps _ _ _).2

/-- What holds of the reads since a catalog was cleared, after any calls. -/
theorem run_remembered (root : Path) (policy : LanguagePolicy) (ts : List Turn) :
    SourceRead.Remembered root (readsSinceCleared ((start root policy).run ts).1)
        ((start root policy).run ts).2.cache ∧
      ∀ r ∈ readsSinceCleared ((start root policy).run ts).1, r.IsRead root := by
  induction ts using List.reverseRecOn with
  | nil => exact ⟨.nil, by simp [run, readsSinceCleared]⟩
  | append_singleton ts t ih =>
    rw [run_concat, readsSinceCleared, List.rtakeWhile_concat]
    by_cases hcall : t.call = .clear
    · have hturn : (((start root policy).run ts).2.exchange t).turn.call = .clear := hcall
      have hafter : (((start root policy).run ts).2.exchange t).after.cache = .empty := by
        simp only [exchange, hcall, reply, clear]
      simp only [hturn, hafter]
      exact ⟨.nil, by simp⟩
    · have hturn : (((start root policy).run ts).2.exchange t).turn.call ≠ .clear := hcall
      have hroot : ((start root policy).run ts).2.root = root := run_root ..
      have hafter : (((start root policy).run ts).2.exchange t).after.cache =
          SourceRead.cacheAfter ((start root policy).run ts).2.cache
            (((start root policy).run ts).2.reads t.disk t.call) := by
        simp only [exchange, reply_snd _ _ hcall]
      obtain ⟨hremembered, hreads⟩ := ih
      have hmore := remembered_reads hroot hremembered t.disk t.call
      simp only [hturn, hafter, ne_eq, not_false_eq_true, decide_true, if_true,
        List.flatMap_append, List.flatMap_singleton]
      refine ⟨hmore, ?_⟩
      intro r hr
      rcases List.mem_append.1 hr with hr | hr
      · exact hreads r hr
      · have hread := (reads_spec _ _ _ r hr).2
        rwa [hroot] at hread

/-- In every sequence of calls, whatever each call finds on the disk: each call replies from its
reads, what is read is read once from one clearing to the next, and the spellings of a path are one
path. -/
theorem run_readOnce (root : Path) (policy : LanguagePolicy) (ts : List Turn) :
    (∀ e ∈ ((start root policy).run ts).1, (∀ r ∈ e.reads, r.disk = e.turn.disk) ∧
        Answers (start root policy) e.turn.disk e.turn.call e.reads e.reply) ∧
      SourceRead.ReadOnce root (readsSinceCleared ((start root policy).run ts).1)
        ((start root policy).run ts).2.cache.size ∧
      ∀ d p q, SourceCache.Spells root d p q →
        SourceCache.key? d (root / p) = SourceCache.key? d (root / q) := by
  obtain ⟨hremembered, hreads⟩ := run_remembered root policy ts
  refine ⟨?_, hremembered.readOnce hreads, fun d p q h => h.key?_eq⟩
  clear hremembered hreads
  induction ts using List.reverseRecOn with
  | nil => simp [run]
  | append_singleton ts t ih =>
    rw [run_concat]
    intro e he
    rcases List.mem_append.1 he with he | he
    · exact ih e he
    · obtain rfl := List.mem_singleton.1 he
      refine ⟨fun r hr => (reads_spec _ _ _ r hr).1, ?_⟩
      have hanswers := answers ((start root policy).run ts).2 t.disk t.call
      rwa [run_root, run_policy] at hanswers

end Catalog

end SpecCoverage
