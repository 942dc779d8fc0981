-- SUMMARY: Features of files outside the workspace: no verdict for such a file is at its path, so the first of its file name is taken.
import SpecCoverage.Proofs.CatalogLoading
import SpecCoverage.Proofs.NormalizedPaths
import SpecCoverage.Proofs.Ownership

/-!
# Files outside the workspace

A feature outside the workspace is shown under an absolute path that starts with two slashes, and the
verdict that names its file under one that starts with one. So the verdict for a file is never at the
path of the file's feature. It has the file name of the feature, and the feature takes it if it is the
first verdict of the report that has.
-/
namespace SpecCoverage

open Text

/-! ## File names -/

namespace OutputContext

/-- A path relative to the workspace has the file name that it had, and is no longer. -/
theorem relativize_spec (c : OutputContext) (path : String) :
    afterLast isPathSeparator (c.relativize path).toList =
        afterLast isPathSeparator (trim path.toList) ∧
      (c.relativize path).toList.length ≤ (trim path.toList).length := by
  have hsep : isPathSeparator '/' = true := by decide
  have hslashes : afterLast isPathSeparator (slashes (trim path.toList)) =
      afterLast isPathSeparator (trim path.toList) := afterLast_slashes hsep (fun _ _ => rfl) _
  have hlength : (slashes (trim path.toList)).length = (trim path.toList).length := by
    rw [slashes, List.length_map]
  unfold relativize
  rw [String.toList_ofList]
  obtain ⟨hname, hle⟩ := afterLast_dropLeads hsep (if c.root.isEmpty then
      slashes (trim path.toList)
    else (dropLead? (c.root ++ ['/']) (slashes (trim path.toList))).getD
      (slashes (trim path.toList)))
  refine ⟨hname.trans ?_, hle.trans ?_⟩
  · rw [← hslashes]
    split
    · rfl
    · cases hlead : dropLead? (c.root ++ ['/']) (slashes (trim path.toList)) with
      | none => rfl
      | some r =>
        rw [dropLead?_eq_some_iff.1 hlead, List.append_assoc, Option.getD_some]
        exact (afterLast_append_sep c.root r hsep).symm
  · rw [← hlength]
    split
    · exact le_rfl
    · cases hlead : dropLead? (c.root ++ ['/']) (slashes (trim path.toList)) with
      | none => exact le_rfl
      | some r =>
        rw [dropLead?_eq_some_iff.1 hlead, Option.getD_some, List.length_append]
        omega

end OutputContext

/-! ## Paths of files outside -/

namespace Path

/-- An absolute path with single slashes. -/
def plain (p : Path) : String :=
  "/" ++ "/".intercalate (p.inner.map Part.text)

theorem exists_name_of_extension? {p : Path} {extension : String}
    (h : p.extension? = some extension) :
    ∃ n, p.fileName? = some n ∧ extension.toList <:+ n.toList := by
  obtain ⟨n, hn, hextension⟩ := Option.bind_eq_some_iff.1 h
  refine ⟨n, hn, ?_⟩
  split at hextension
  · cases hextension
  · cases hextension
  · obtain rfl := Option.some.inj hextension
    rw [String.toList_ofList]
    exact afterLast_suffix _ _

/-- The file name ends the path. -/
theorem fileName_suffix_plain {p : Path} {n : String} (habsolute : p.isAbsolute = true)
    (h : p.fileName? = some n) : p.inner ≠ [] ∧ n.toList <:+ p.plain.toList := by
  have hlast : p.parts.getLast? = some (.name n) := by
    unfold fileName? lastName? at h
    split at h
    · rename_i m hm
      rw [hm, Option.some.inj h]
    · cases h
  rw [parts_of_isAbsolute habsolute] at hlast
  have hne : p.inner ≠ [] := by
    intro hempty
    simp [hempty] at hlast
  refine ⟨hne, ?_⟩
  obtain ⟨front, part, hinner⟩ := (List.eq_nil_or_concat' p.inner).resolve_left hne
  have hpart : part = .name n := by
    rw [hinner, ← List.cons_append, List.getLast?_concat] at hlast
    exact Option.some.inj hlast
  rw [plain, hinner, hpart, List.map_append, String.toList_append]
  by_cases hfront : front = []
  · exact ⟨['/'], by simp [hfront, Part.text]⟩
  · rw [String.intercalate_append_of_ne_nil (by simpa using hfront) (by simp)]
    refine ⟨'/' :: ("/".intercalate (front.map Part.text) ++ "/").toList, ?_⟩
    simp [Part.text]

theorem slashed_of_isAbsolute {p : Path} (habsolute : p.isAbsolute = true) (hne : p.inner ≠ []) :
    slashed p.parts = "/" ++ p.plain := by
  have hinner : p.inner.filter (· ≠ .here) = p.inner := by
    have hfilter := filter_parts p
    rw [← hfilter, List.filter_filter]
    exact List.filter_congr fun x _ => by cases x <;> rfl
  rw [slashed, parts_of_isAbsolute habsolute, List.filter_cons_of_pos (by decide), hinner,
    List.map_cons, String.intercalate_cons_of_ne_nil (by simpa using hne), plain,
    String.append_assoc]
  rfl

/-- No blank ends the path of a specification file. -/
theorem trim_plain {p : Path} (habsolute : p.isAbsolute = true)
    (h : p.extension? = some Catalog.extension) : trim p.plain.toList = p.plain.toList := by
  obtain ⟨n, hname, hextension⟩ := exists_name_of_extension? h
  obtain ⟨front, hfront⟩ := hextension.trans (fileName_suffix_plain habsolute hname).2
  have hcons : p.plain.toList = '/' :: ("/".intercalate (p.inner.map Part.text)).toList := by
    rw [plain, String.toList_append]
    rfl
  have hend : p.plain.toList = (front ++ "featur".toList) ++ ['e'] := by
    rw [← hfront, List.append_assoc]
    rfl
  rw [hcons, trim_cons_of_not_isBlank _ (by decide), ← hcons, hend,
    trimEnd_concat_of_not_isBlank _ (by decide)]

end Path

/-! ## The verdict for a file -/

/-- The verdict of a validator that names a file by its absolute path. -/
def FeatureVerdict.naming (c : Catalog) (file : Path)
    (languages : SortedMap Language LanguageVerdict) : FeatureVerdict :=
  ⟨(OutputContext.mk c.root.text c.policy).relativize file.plain, languages⟩

namespace Catalog

section

variable {c : Catalog} {p : Path} {f : Feature} {languages : SortedMap Language LanguageVerdict}

theorem relative_of_outside (habsolute : p.isAbsolute = true) (hout : c.root.below? p = none)
    (hne : p.inner ≠ []) : c.relative p = "/" ++ p.plain := by
  rw [relative, Path.relativeTo, if_pos habsolute, hout, Option.getD_none,
    Path.slashed_of_isAbsolute habsolute hne]

/-- The verdict for a file is not at the path of its feature, which is longer. -/
theorem not_isAt_naming (hpath : f.path = "/" ++ p.plain)
    (htrim : trim p.plain.toList = p.plain.toList) :
    ¬ (FeatureVerdict.naming c p languages).IsAt f := by
  intro hat
  have hsep : isPathSeparator '/' = true := by decide
  have hshort := (OutputContext.relativize_spec ⟨c.root.text, c.policy⟩ p.plain).2
  have hslashes := (afterLast_dropLeads hsep
    (slashes (FeatureVerdict.naming c p languages).path.toList)).2
  have hfront : startsWith "./".toList (slashes f.path.toList) = false := by
    rw [hpath, String.toList_append]
    rfl
  have hlength := congrArg (fun s : String => s.toList.length) hat
  simp only [normalizePath, String.toList_ofList, dropLeads_eq_self hfront] at hlength
  rw [htrim] at hshort
  simp only [slashes, List.length_map, hpath, String.toList_append, List.length_append]
    at hlength hslashes
  have hone : "/".toList.length = 1 := rfl
  have hnamed : (FeatureVerdict.naming c p languages).path.toList.length ≤ p.plain.toList.length :=
    hshort
  omega

/-- It has the file name of the feature. -/
theorem sharesStemWith_naming (hpath : f.path = "/" ++ p.plain)
    (htrim : trim p.plain.toList = p.plain.toList) :
    (FeatureVerdict.naming c p languages).SharesStemWith f := by
  have hsep : isPathSeparator '/' = true := by decide
  have hname := (OutputContext.relativize_spec ⟨c.root.text, c.policy⟩ p.plain).1
  rw [htrim] at hname
  have hdouble : afterLast isPathSeparator f.path.toList =
      afterLast isPathSeparator p.plain.toList := by
    rw [hpath, String.toList_append, Path.plain, String.toList_append]
    exact (afterLast_append_sep ['/'] _ hsep).trans (afterLast_append_sep [] _ hsep).symm
  rw [FeatureVerdict.SharesStemWith, normalizedStem_normalizePath, Feature.stem, fileStem, fileStem,
    hdouble, ← hname]
  rfl

end

/-- What a feature of a file outside the workspace takes from a report that names the file: the first
verdict of its file name, unless some verdict is at the feature's path. -/
structure TakesByName (rows : List Row) (verdicts : List FeatureVerdict) (f : Feature)
    (own : FeatureVerdict) : Prop where
  present : ∃ r ∈ rows, r.feature = f
  /-- The verdict for the file is not at the path of the feature. -/
  apart : ¬ own.IsAt f
  named : own.SharesStemWith f
  takes : ∀ r ∈ rows, r.feature = f → ∃ v ∈ verdicts, r.Follows v ∧
    (v = own ↔ (∀ w ∈ verdicts, ¬ w.IsAt f) ∧ verdicts.find? (·.SharesStemWith f) = some own)
  /-- Without another verdict of this file name the row carries the verdict for its file. -/
  alone : (∀ w ∈ verdicts, w.SharesStemWith f → w = own) →
    ∀ r ∈ rows, r.feature = f → r.Follows own

theorem sharesStemWith_of_isAt {v : FeatureVerdict} {f : Feature} (h : v.IsAt f) :
    v.SharesStemWith f := by
  rw [FeatureVerdict.SharesStemWith, h, normalizedStem_normalizePath]
  rfl

/-- Where a verdict has the file name of a feature, one that has is joined to it. -/
theorem exists_joined {verdicts : List FeatureVerdict} {f : Feature} {own : FeatureVerdict}
    (hown : own ∈ verdicts) (hnamed : own.SharesStemWith f) :
    ∃ v ∈ verdicts, FeatureVerdict.joined? verdicts f = some v ∧ v.SharesStemWith f := by
  cases hjoined : FeatureVerdict.joined? verdicts f with
  | none => exact absurd hnamed (FeatureVerdict.joined?_eq_none_iff.1 hjoined own hown).2
  | some v =>
    refine ⟨v, FeatureVerdict.mem_of_joined? hjoined, rfl, ?_⟩
    rw [FeatureVerdict.joined?, Option.or_eq_some_iff] at hjoined
    rcases hjoined with hat | ⟨-, hfind⟩
    · exact sharesStemWith_of_isAt (FeatureVerdict.isAt_of_find? hat)
    · simpa using List.find?_some hfind

/-- A verdict that is not at the path of a feature is joined to it where it is the first of the
feature's file name and no verdict is at the path. -/
theorem joined?_eq_iff_of_apart {verdicts : List FeatureVerdict} {f : Feature}
    {own : FeatureVerdict} (hapart : ¬ own.IsAt f) :
    FeatureVerdict.joined? verdicts f = some own ↔
      (∀ w ∈ verdicts, ¬ w.IsAt f) ∧ verdicts.find? (·.SharesStemWith f) = some own := by
  constructor
  · intro hjoined
    rw [FeatureVerdict.joined?, Option.or_eq_some_iff] at hjoined
    rcases hjoined with hat | ⟨hnone, hfind⟩
    · exact absurd (FeatureVerdict.isAt_of_find? hat) hapart
    · refine ⟨?_, hfind⟩
      simpa only [List.find?_eq_none, decide_eq_true_eq] using hnone
  · rintro ⟨hnone, hfind⟩
    exact FeatureVerdict.joined?_of_not_isAt hnone hfind

theorem takesByName {c : Catalog} {d : Disk} {features : List Feature}
    {verdicts : List FeatureVerdict} (crossReferences : CrossReferences) {f : Feature}
    {own : FeatureVerdict} (hf : f ∈ features) (hown : own ∈ verdicts) (hapart : ¬ own.IsAt f)
    (hnamed : own.SharesStemWith f) :
    TakesByName (c.matrix d features verdicts crossReferences).1.rows verdicts f own where
  present := exists_row hf
  apart := hapart
  named := hnamed
  takes := by
    rintro r hr rfl
    obtain ⟨v, hv, hjoined, -⟩ := exists_joined hown hnamed
    refine ⟨v, hv, row_follows hr hjoined, ?_⟩
    rw [← joined?_eq_iff_of_apart hapart, hjoined, Option.some.injEq]
  alone := by
    rintro honly r hr rfl
    obtain ⟨v, hv, hjoined, hshares⟩ := exists_joined hown hnamed
    rw [honly v hv hshares] at hjoined
    exact row_follows hr hjoined

/-- The verdict that a report which names files by their absolute paths has for a listed file. -/
def named (c : Catalog) (directory : Path)
    (languages : List String → SortedMap Language LanguageVerdict) (names : List String) :
    FeatureVerdict :=
  .naming c (Disk.pathBelow (c.root / directory) names) (languages names)

theorem forall₂_mem {α β : Type} {R : α → β → Prop} {as : List α} {bs : List β}
    (h : List.Forall₂ R as bs) : List.Forall₂ (fun a b => a ∈ as ∧ b ∈ bs ∧ R a b) as bs := by
  induction h with
  | nil => exact .nil
  | @cons a b as bs hab _ ih =>
    refine .cons ⟨List.mem_cons_self, List.mem_cons_self, hab⟩ (ih.imp ?_)
    rintro a' b' ⟨ha, hb, hr⟩
    exact ⟨List.mem_cons_of_mem a ha, List.mem_cons_of_mem b hb, hr⟩

/-- Under a report that names each loaded file once by its absolute path, in any order, a feature of
a file outside the workspace takes the first verdict of its file name. -/
theorem load_takesByName (root : Path) (policy : LanguagePolicy) (d : Disk) (directory : Path)
    (languages : List String → SortedMap Language LanguageVerdict)
    (crossReferences : CrossReferences) (htree : d.IsTree)
    (habsolute : (root / directory).isAbsolute = true) :
    ∃ found, Lists (start root policy) d directory Short found
        ((start root policy).load d directory).1 ∧
      ∀ order : List (List String), order.Perm found →
        let loaded := (start root policy).load d directory
        let verdicts := order.map (named (start root policy) directory languages)
        List.Forall₂ (fun names f =>
            root.below? (Disk.pathBelow (root / directory) names) = none →
              TakesByName (loaded.2.matrix d loaded.1 verdicts crossReferences).1.rows verdicts f
                (named (start root policy) directory languages names))
          found loaded.1 := by
  obtain ⟨found, hlists⟩ := exists_lists htree habsolute policy
  refine ⟨found, hlists, ?_⟩
  intro order hperm loaded verdicts
  refine (forall₂_mem hlists.reads).imp ?_
  rintro names f ⟨hnames, hf, content, hfile, rfl⟩ hout
  obtain ⟨-, -, hextension, -⟩ := (hlists.mem_iff names).1 hnames
  have hpath := (Disk.isAbsolute_pathBelow (text_ne_empty_of_isAbsolute habsolute)
    fun t ht => (hfile.names htree t ht).not_slash).trans habsolute
  have htrim := Path.trim_plain hpath hextension
  obtain ⟨n, hname, -⟩ := Path.exists_name_of_extension? hextension
  have hrelative : (start root policy).relative (Disk.pathBelow (root / directory) names) =
      "/" ++ (Disk.pathBelow (root / directory) names).plain :=
    relative_of_outside hpath hout (Path.fileName_suffix_plain hpath hname).1
  refine takesByName crossReferences hf ?_ (not_isAt_naming hrelative htrim)
    (sharesStemWith_naming hrelative htrim)
  exact List.mem_map_of_mem (hperm.mem_iff.2 hnames)

theorem exists_of_forall₂ {α β : Type} {R S : α → β → Prop} {as : List α} {bs : List β} {a : α}
    (hr : List.Forall₂ R as bs) (hs : List.Forall₂ S as bs) (ha : a ∈ as) :
    ∃ b ∈ bs, R a b ∧ S a b := by
  induction hr with
  | nil => cases ha
  | @cons a' b as bs hab _ ih =>
    obtain ⟨hab', hs⟩ := List.forall₂_cons.1 hs
    rcases List.mem_cons.1 ha with rfl | ha
    · exact ⟨b, List.mem_cons_self, hab, hab'⟩
    · obtain ⟨b', hb', h⟩ := ih hs ha
      exact ⟨b', List.mem_cons_of_mem b hb', h⟩

/-! ## Two files of one name -/

/-- Two specifications of one file name outside the workspace `/w`. -/
def twoLogins : Disk where
  nodes := [(["w"], .directory 0), (["specs"], .directory 0), (["specs", "admin"], .directory 0),
    (["specs", "admin", "login.feature"], .file .empty 0 false), (["specs", "user"], .directory 0),
    (["specs", "user", "login.feature"], .file .empty 0 false)]
  current := ["w"]
  now := 0

/-- One file has a verdict for Go, the other one for Python. -/
def loginLanguages (names : List String) : SortedMap Language LanguageVerdict :=
  let l : Language := if names = ["admin", "login.feature"] then ⟨"go"⟩ else ⟨"python"⟩
  .ofList [(l, ⟨l, true, none, ∅, .pass⟩)]

theorem load_takesByName_twoLogins :
    twoLogins.IsTree ∧ ((⟨"/w"⟩ : Path) / ⟨"/specs"⟩).isAbsolute = true ∧
      ∃ found, Lists (start ⟨"/w"⟩ .default) twoLogins ⟨"/specs"⟩ Short found
          ((start ⟨"/w"⟩ .default).load twoLogins ⟨"/specs"⟩).1 ∧
        ∀ order : List (List String), order.Perm found →
          let loaded := (start ⟨"/w"⟩ .default).load twoLogins ⟨"/specs"⟩
          let verdicts := order.map (named (start ⟨"/w"⟩ .default) ⟨"/specs"⟩ loginLanguages)
          List.Forall₂ (fun names f =>
              Path.below? ⟨"/w"⟩ (Disk.pathBelow (⟨"/w"⟩ / ⟨"/specs"⟩) names) = none →
                TakesByName (loaded.2.matrix twoLogins loaded.1 verdicts ∅).1.rows verdicts f
                  (named (start ⟨"/w"⟩ .default) ⟨"/specs"⟩ loginLanguages names))
            found loaded.1 :=
  ⟨by decide, by decide, load_takesByName _ _ _ _ _ _ (by decide) (by decide)⟩

/-- The second of two files of one name takes the verdict for the first. -/
theorem not_follows_twoLogins :
    ¬ ∃ found, Lists (start ⟨"/w"⟩ .default) twoLogins ⟨"/specs"⟩ Short found
        ((start ⟨"/w"⟩ .default).load twoLogins ⟨"/specs"⟩).1 ∧
      let loaded := (start ⟨"/w"⟩ .default).load twoLogins ⟨"/specs"⟩
      let verdicts := [["admin", "login.feature"], ["user", "login.feature"]].map
        (named (start ⟨"/w"⟩ .default) ⟨"/specs"⟩ loginLanguages)
      List.Forall₂ (fun names f =>
          ∀ r ∈ (loaded.2.matrix twoLogins loaded.1 verdicts ∅).1.rows, r.feature = f →
            r.Follows (named (start ⟨"/w"⟩ .default) ⟨"/specs"⟩ loginLanguages names))
        found loaded.1 := by
  rintro ⟨found, hlists, hfollows⟩
  have hmem : ["user", "login.feature"] ∈ found := by
    rw [hlists.mem_iff]
    exact ⟨.empty, ⟨["specs"], 0, 0, false, rfl, rfl⟩, by decide, by decide, by unfold Short; decide⟩
  obtain ⟨f, hf, hread, huser⟩ := exists_of_forall₂ hlists.reads hfollows hmem
  obtain ⟨content, -, hfeature⟩ := hread
  have hpath : f.path = "//specs/user/login.feature" := by
    rw [hfeature]
    rfl
  -- Neither verdict is at the path of the feature, and both have its file name.
  have hapart : ∀ v ∈ [["admin", "login.feature"], ["user", "login.feature"]].map
      (named (start ⟨"/w"⟩ .default) ⟨"/specs"⟩ loginLanguages), ¬ v.IsAt f := by
    unfold FeatureVerdict.IsAt
    rw [hpath]
    decide
  have hshares : (named (start ⟨"/w"⟩ .default) ⟨"/specs"⟩ loginLanguages
      ["admin", "login.feature"]).SharesStemWith f := by
    unfold FeatureVerdict.SharesStemWith Feature.stem
    rw [hpath]
    decide
  have hfirst := FeatureVerdict.joined?_of_not_isAt hapart
    (List.find?_cons_of_pos (by simpa using hshares))
  obtain ⟨r, hr, hrow⟩ := exists_row hf
  have hadmin := row_follows hr (by rw [hrow, hfirst])
  have hgo := (hadmin.present ⟨"go"⟩).2 (by decide)
  have hnone := (huser r hr hrow).present ⟨"go"⟩
  exact absurd (hnone.1 hgo) (by decide)

end Catalog

end SpecCoverage
