-- SUMMARY: Adding a single-language feature to a catalog's matrix leaves the languages that were there as they are.
import SpecCoverage.Proofs.SourceReads
import SpecCoverage.Proofs.TwoBuilds

/-!
# Adding a single-language feature

The sources of an added feature are read through the cache that all rows share. They fill entries
that the other rows would fill with the same texts, or would not fill: a source that cannot be read as
it is spelled is answered from the cache once another spelling of it has been read. So only rows with
such a source may change, and only in their lines.
-/
namespace SpecCoverage

namespace SourceCache

/-! ## Two caches -/

variable {d : Disk} {more : List Path} {s s' : SourceCache} {p : Path} {k : List Path.Part}
  {text : String}

/-- A cache with the entries of another one and, beyond them, texts that the disk has for some more
paths. -/
def Extends (d : Disk) (more : List Path) (s s' : SourceCache) : Prop :=
  ∀ k, s'.entries.lookup k = s.entries.lookup k ∨
    s.entries.lookup k = none ∧ ∃ q ∈ more, ∃ text, key? d q = some k ∧ onDisk d q = .ok text ∧
      s'.entries.lookup k = some text

theorem Extends.refl (d : Disk) (more : List Path) (s : SourceCache) : Extends d more s s :=
  fun _ => .inl rfl

/-- An entry that is found is found in the larger cache too. -/
theorem Extends.lookup (h : Extends d more s s') (hentry : s.entries.lookup k = some text) :
    s'.entries.lookup k = some text := by
  rcases h k with hsame | ⟨hnone, -⟩
  · rw [hsame, hentry]
  · rw [hnone] at hentry
    cases hentry

theorem lookup_cons_of_ne {k' : List Path.Part} {es : List (List Path.Part × String)}
    (hk : k' ≠ k) : List.lookup k' ((k, text) :: es) = es.lookup k' := by
  rw [List.lookup_cons, beq_eq_false_iff_ne.2 hk]

/-! ### Further entries -/

theorem Extends.cons (h : Extends d more s s') :
    Extends d more ⟨(k, text) :: s.entries⟩ ⟨(k, text) :: s'.entries⟩ := by
  intro k'
  by_cases hk : k' = k
  · subst hk
    exact .inl (by rw [List.lookup_cons_self, List.lookup_cons_self])
  · simp only [lookup_cons_of_ne hk]
    exact h k'

theorem Extends.cons_left (h : Extends d more s s') (hentry : s'.entries.lookup k = some text) :
    Extends d more ⟨(k, text) :: s.entries⟩ s' := by
  intro k'
  by_cases hk : k' = k
  · subst hk
    exact .inl (by rw [hentry, List.lookup_cons_self])
  · simp only [lookup_cons_of_ne hk]
    exact h k'

theorem Extends.cons_right (h : Extends d more s s') (hnone : s'.entries.lookup k = none)
    (hq : p ∈ more) (hkey : key? d p = some k) (hdisk : onDisk d p = .ok text) :
    Extends d more s ⟨(k, text) :: s'.entries⟩ := by
  intro k'
  by_cases hk : k' = k
  · subst hk
    refine .inr ⟨?_, p, hq, text, hkey, hdisk, List.lookup_cons_self⟩
    rcases h k' with hsame | ⟨hnone', -⟩
    · rw [← hsame, hnone]
    · exact hnone'
  · simp only [lookup_cons_of_ne hk]
    exact h k'

/-! ### Reads -/

/-- A text that the disk has for one of the further paths may be kept in the larger cache. -/
theorem Extends.read_more (h : Extends d more s s') (hp : p ∈ more) :
    Extends d more s (s'.read d p).2 := by
  have hread := read_spec s' d p
  generalize s'.read d p = read at hread
  obtain ⟨result, s''⟩ := read
  cases hread with
  | kept => exact h
  | failed => exact h
  | fresh hkey hnone hdisk => exact h.cons_right hnone hp hkey hdisk

/-- A path reads the same text in both caches, unless it cannot be read and is found in the larger
one, where one of the further paths has brought it. -/
theorem Extends.read (h : Extends d more s s') (p : Path) :
    ((s'.read d p).1 = (s.read d p).1 ∨ ∃ e, onDisk d p = .error e ∧ (s.read d p).1 = .error e ∧
      ∃ q ∈ more, ∃ text, key? d q = key? d p ∧ onDisk d q = .ok text ∧
        (s'.read d p).1 = .ok text) ∧
    Extends d more (s.read d p).2 (s'.read d p).2 := by
  have hread := read_spec s d p
  generalize s.read d p = read at hread
  obtain ⟨result, t⟩ := read
  cases hread with
  | kept hkey hentry =>
    rw [(Read.kept hkey (h.lookup hentry)).eq]
    exact ⟨.inl rfl, h⟩
  | @fresh k text hkey hnone hdisk =>
    rcases h k with hsame | ⟨-, q, hq, text', hqkey, hqdisk, hentry⟩
    · rw [(Read.fresh hkey (hsame.trans hnone) hdisk).eq]
      exact ⟨.inl rfl, h.cons⟩
    · -- What the further path has brought is what the disk has for this one.
      obtain rfl := onDisk_unique (hqkey.trans hkey.symm) hqdisk hdisk
      rw [(Read.kept hkey hentry).eq]
      exact ⟨.inl rfl, h.cons_left hentry⟩
  | @failed e hnone hdisk =>
    by_cases hfound : ∃ k text, key? d p = some k ∧ s'.entries.lookup k = some text
    · -- Only the larger cache has the entry, so one of the further paths has the same parts.
      obtain ⟨k, text, hkey, hentry⟩ := hfound
      rw [(Read.kept hkey hentry).eq]
      refine ⟨.inr ⟨e, hdisk, rfl, ?_⟩, h⟩
      rcases h k with hsame | ⟨-, q, hq, text', hqkey, hqdisk, hentry'⟩
      · rw [hsame, hnone k hkey] at hentry
        cases hentry
      · rw [hentry, Option.some.injEq] at hentry'
        exact ⟨q, hq, text, hqkey.trans hkey.symm, hentry' ▸ hqdisk, rfl⟩
    · have hnone' (k : List Path.Part) (hkey : key? d p = some k) :
          s'.entries.lookup k = none := by
        apply Option.eq_none_iff_forall_ne_some.2
        intro text hentry
        exact hfound ⟨k, text, hkey, hentry⟩
      rw [(Read.failed hnone' hdisk).eq]
      exact ⟨.inl rfl, h⟩

end SourceCache

namespace Catalog

/-! ## Lines of tests -/

open SourceCache

/-- Two catalogs at one root, the second with texts of further sources in its cache. -/
def Extends (root : Path) (d : Disk) (sources : List String) (c c' : Catalog) : Prop :=
  c.root = root ∧ c'.root = root ∧
    c.cache.Extends d (sources.map fun q => root / ⟨q⟩) c'.cache

/-- A source that cannot be read, and so has no lines, has those in the text of another source that
leads to the same place. -/
def borrowedLines (root : Path) (d : Disk) (sources : List String) : LineChange :=
  fun p scenarios lines lines' =>
    (∃ e, onDisk d (root / ⟨p⟩) = .error e) ∧ lines = ∅ ∧
      ∃ q ∈ sources, ∃ text, key? d (root / ⟨q⟩) = key? d (root / ⟨p⟩) ∧
        onDisk d (root / ⟨q⟩) = .ok text ∧ lines' = Declaration.linesFor scenarios text

theorem run_linesIn (d : Disk) (p : String) (scenarios : List String) (c : Catalog) :
    (linesIn d p scenarios).run c =
      (match (c.cache.read d (c.root / ⟨p⟩)).1 with
        | .ok text => Declaration.linesFor scenarios text
        | .error _ => ∅,
        { c with cache := (c.cache.read d (c.root / ⟨p⟩)).2 }) := by
  change linesIn d p scenarios c = _
  unfold linesIn sourceText
  generalize c.cache.read d (c.root / ⟨p⟩) = read
  obtain ⟨result, cache⟩ := read
  cases result <;> rfl

theorem linesIn_simulates (root : Path) (d : Disk) (sources : List String) :
    (linesIn d).Simulates (Extends root d sources) (borrowedLines root d sources) sources where
  both := by
    rintro p scenarios c c' ⟨hroot, hroot', hcache⟩
    obtain ⟨hresult, hafter⟩ := hcache.read (root / ⟨p⟩)
    rw [run_linesIn, run_linesIn, hroot, hroot']
    refine ⟨?_, rfl, rfl, hafter⟩
    rcases hresult with hsame | ⟨e, hdisk, herror, q, hq, text, hkey, hqdisk, hok⟩
    · exact .inl (by rw [hsame])
    · obtain ⟨source, hsource, rfl⟩ := List.mem_map.1 hq
      exact .inr ⟨⟨e, hdisk⟩, by rw [herror], source, hsource, text, hkey, hqdisk, by rw [hok]⟩
  extra := by
    rintro p hp scenarios c c' ⟨hroot, hroot', hcache⟩
    rw [run_linesIn, hroot']
    exact ⟨hroot, rfl, hcache.read_more (List.mem_map_of_mem hp)⟩

/-! ## The matrix -/

/-- A single-language feature that is added at any place of the list leaves the languages that were on
the axis as they are, whatever languages it brings: their summaries, their missing entries in order,
and the rows of the other features, but for lines in sources that cannot be read as they are spelled
and that the verdict of the added feature names so that they can. -/
theorem matrix_keptWith_added (c : Catalog) (d : Disk) (before after : List Feature)
    {added : Feature} (hadded : added.scope.isShared = false) (verdicts : List FeatureVerdict)
    (crossReferences : CrossReferences) :
    Matrix.KeptWith (borrowedLines c.root d (FeatureVerdict.sourcesOf verdicts added)) added
      (c.matrix d (before ++ after) verdicts crossReferences).1
      (c.matrix d (before ++ added :: after) verdicts crossReferences).1 :=
  Matrix.build_keptWith
    (linesIn_simulates c.root d (FeatureVerdict.sourcesOf verdicts added)) hadded c.policy before
    after crossReferences ⟨rfl, rfl, SourceCache.Extends.refl _ _ _⟩

/-! ## A source in two spellings -/

/-- A disk with one test source. -/
def loginSource : Disk where
  nodes := [(["w"], .directory 0), (["w", "login.cc"], .file "void LogIn(".toUTF8 0 false)]
  current := ["w"]
  now := 0

/-- A feature of ODBC alone. -/
def odbcHandles : Feature :=
  ⟨"odbc/handles.feature", "Handles", [], "odbc", .only ⟨"odbc"⟩, [⟨"Allocate", [], ∅, ∅, ∅⟩]⟩

/-- The source of Go is spelled so that it cannot be read, that of ODBC so that it can. -/
def spelledSources : List FeatureVerdict :=
  [⟨"user/login.feature", .ofList [(⟨"go"⟩, ⟨⟨"go"⟩, true, some "login.cc/", ∅, .pass⟩)]⟩,
    ⟨"odbc/handles.feature", .ofList [(⟨"odbc"⟩, ⟨⟨"odbc"⟩, true, some "login.cc", ∅, .pass⟩)]⟩]

theorem matrix_keptWith_added_odbcHandles :
    odbcHandles.scope.isShared = false ∧
      Matrix.KeptWith
        (borrowedLines ⟨"/w"⟩ loginSource (FeatureVerdict.sourcesOf spelledSources odbcHandles))
        odbcHandles
        ((start ⟨"/w"⟩ .default).matrix loginSource ([] ++ [.userLogin]) spelledSources ∅).1
        ((start ⟨"/w"⟩ .default).matrix loginSource ([] ++ odbcHandles :: [.userLogin])
          spelledSources ∅).1 :=
  ⟨rfl, matrix_keptWith_added (start ⟨"/w"⟩ .default) loginSource [] [.userLogin] rfl
    spelledSources ∅⟩

/-- The lines that a row has for Go. -/
def goLines (r : Row) : Option (List (String × Nat)) :=
  (r.result? ⟨"go"⟩).map (·.lines.entries)

/-- The row of Go finds the line of its test once the feature of ODBC is added. -/
theorem not_keptWith_odbcHandles :
    ¬ Matrix.KeptWith (fun _ _ _ _ => False) odbcHandles
        ((start ⟨"/w"⟩ .default).matrix loginSource ([] ++ [.userLogin]) spelledSources ∅).1
        ((start ⟨"/w"⟩ .default).matrix loginSource ([] ++ odbcHandles :: [.userLogin])
          spelledSources ∅).1 := by
  intro hkept
  let found (sorted : List Feature) : List (Option (List (String × Nat))) :=
    ((sorted.mapM (Matrix.rowOf (linesIn loginSource)
      (Matrix.axisOf .default (.ofVerdicts spelledSources) sorted) []
      (.ofVerdicts spelledSources))).run (start ⟨"/w"⟩ .default)).1.map goLines
  have hfound {features sorted : List Feature}
      (hsorted : features.mergeSort Matrix.featureBefore = sorted) :
      ((start ⟨"/w"⟩ .default).matrix loginSource features spelledSources ∅).1.rows.map goLines =
        found sorted := by
    subst hsorted
    rfl
  have hbefore : found [.userLogin] = [some []] := by decide +kernel
  have hafter : found [odbcHandles, .userLogin] = [none, some [("Log in", 1)]] := by decide +kernel
  have hgo : (⟨"go"⟩ : Language) ∈
      ((start ⟨"/w"⟩ .default).matrix loginSource [.userLogin] spelledSources ∅).1.languages :=
    Matrix.mem_build_languages.2 ⟨.userLogin, List.mem_singleton_self _, _, rfl, by decide⟩
  -- The row that stands for the one of Go has no lines, and there is no such row.
  rw [← hfound (List.mergeSort_singleton _)] at hbefore
  rw [← hfound (List.mergeSort_of_pairwise (by decide))] at hafter
  obtain ⟨before, r, after, hrows, -, hothers⟩ := hkept.rows
  obtain ⟨x, hx, hlines⟩ := List.map_eq_singleton_iff.1 hbefore
  obtain ⟨y, ys, hxy, -, hys⟩ := List.forall₂_cons_left_iff.1 (hx ▸ hothers)
  have hy : goLines y = some [] := by
    rw [goLines, Row.result?, hxy.get?_eq hgo]
    exact hlines
  have hmem : y ∈ before ++ r :: after := by
    have hmem : y ∈ before ++ after := hys ▸ List.mem_cons_self
    simp only [List.mem_append, List.mem_cons] at hmem ⊢
    exact hmem.imp_right .inr
  have hnone : some [] ∈ [none, some [("Log in", 1)]] := by
    rw [← hafter, ← hy]
    exact List.mem_map_of_mem (hrows ▸ hmem)
  exact absurd hnone (by decide)

end Catalog

end SpecCoverage
