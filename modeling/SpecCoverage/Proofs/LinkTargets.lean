-- SUMMARY: Where the links of a page can lead, and that without a base a reported path can bring a scheme along.
import SpecCoverage.Proofs.Cutting
import SpecCoverage.Proofs.PageLinks
import SpecCoverage.Proofs.PageRows
import SpecCoverage.Proofs.SettingsCheck
import SpecCoverage.Report.OfDocument

/-!
# Where links lead

A link of a page is confined when it leads to a part of the page, below the configured base, or
along a path without a scheme. Below a base all links are confined. Without a base a reported path
is the link as it stands, so the link is confined just when the path has no scheme.
-/
namespace SpecCoverage

open Markup Text

/-! ## Schemes -/

namespace Link

def isSchemeChar (c : Char) : Bool :=
  isAsciiAlphanumeric c || c == '+' || c == '-' || c == '.'

/-- A link as it is followed: without the blanks in front of it, without tabs and line breaks. -/
def followed (link : List Char) : List Char :=
  (link.dropWhile (·.toNat ≤ 32)).filter (· ∉ ['\t', '\n', '\r'])

/-- The scheme of a link as it is followed: what stands before a colon, if it starts with a letter
and consists of letters, digits, plus, minus and full stops. -/
def scheme? (link : List Char) : Option (List Char) :=
  let name := (followed link).takeWhile isSchemeChar
  let rest := (followed link).dropWhile isSchemeChar
  if rest.head? = some ':' && name.head?.any (fun c => isAsciiUpper c || isAsciiLower c) then
    some name
  else none

/-- A fragment behind a link leaves its scheme as it is. -/
theorem scheme?_append_fragment (link fragment : List Char) :
    scheme? (link ++ '#' :: fragment) = scheme? link := by
  have hfollowed : followed (link ++ '#' :: fragment) =
      followed link ++ '#' :: fragment.filter (· ∉ ['\t', '\n', '\r']) := by
    simp only [followed]
    rw [dropWhile_append_stop (by decide), List.filter_append]
    rfl
  simp only [scheme?, hfollowed]
  rw [takeWhile_append_stop (by decide), dropWhile_append_stop (by decide)]
  cases List.dropWhile isSchemeChar (followed link) with
  | nil => rfl
  | cons d rest => rfl

/-- The schemes of web pages. -/
def webSchemes : List (List Char) := ["https".toList, "http".toList]

/-! ## Links to source files -/

/-- Without a base a link has the scheme of its path. -/
theorem scheme?_toSource_none (path : String) (line? : Option Nat) :
    scheme? (toSource none path line?).toList = scheme? (dropLeads "./".toList path.toList) := by
  cases line? with
  | none => simp [toSource, trimmedBase?]
  | some line =>
    have happend : (toSource none path (some line)).toList =
        dropLeads "./".toList path.toList ++ '#' :: 'L' :: (toString line).toList := by
      simp [toSource, trimmedBase?]
    rw [happend, scheme?_append_fragment]

/-- Below a base the path follows a slash. -/
theorem exists_toSource_of_trimmedBase? {base? : Option String} {base : List Char}
    (h : trimmedBase? base? = some base) (path : String) (line? : Option Nat) :
    ∃ rest, (toSource base? path line?).toList = base ++ '/' :: rest := by
  simp only [toSource, h, String.toList_append, String.toList_ofList, List.append_assoc,
    List.cons_append]
  exact ⟨_, rfl⟩

/-- A base with a colon keeps what stands up to it. -/
theorem exists_trimmedBase?_of_colon {base : String} {name rest : List Char}
    (h : base.toList = name ++ ':' :: rest) :
    ∃ rest', trimmedBase? (some base) = some (name ++ ':' :: rest') := by
  have hdrop : base.toList.reverse.dropWhile (· == '/') =
      rest.reverse.dropWhile (· == '/') ++ ':' :: name.reverse := by
    rw [h, List.reverse_append, List.reverse_cons, List.append_assoc, List.singleton_append,
      dropWhile_append_stop (by decide)]
  refine ⟨(rest.reverse.dropWhile (· == '/')).reverse, ?_⟩
  simp only [trimmedBase?, hdrop]
  cases rest.reverse.dropWhile (· == '/') with
  | nil => simp
  | cons c tail => simp

/-- A link below the address of a web page is one. -/
theorem exists_scheme_of_hasLinkScheme {base : String}
    (h : Settings.hasLinkScheme base.toList = true) :
    ∃ trimmed scheme, trimmedBase? (some base) = some trimmed ∧ scheme ∈ webSchemes ∧
      ∀ rest, scheme? (trimmed ++ rest) = some scheme := by
  rw [Settings.hasLinkScheme, Bool.or_eq_true, startsWith_iff, startsWith_iff] at h
  obtain ⟨rest, hrest⟩ | ⟨rest, hrest⟩ := h
  · have hbase : base.toList = "https".toList ++ ':' :: '/' :: '/' :: rest := hrest.symm
    obtain ⟨tail, htail⟩ := exists_trimmedBase?_of_colon hbase
    exact ⟨_, "https".toList, htail, by decide, fun _ => rfl⟩
  · have hbase : base.toList = "http".toList ++ ':' :: '/' :: '/' :: rest := hrest.symm
    obtain ⟨tail, htail⟩ := exists_trimmedBase?_of_colon hbase
    exact ⟨_, "http".toList, htail, by decide, fun _ => rfl⟩

end Link

/-! ## Reported paths -/

/-- The test, or the place of a behavior, is in the file. -/
def Implementation.Names (i : Implementation) (path : String) : Prop :=
  path = i.testFile ∨ ∃ s, (i.newBehavior? = some s ∨ i.oldBehavior? = some s) ∧ path = s.file

/-- A report says that a test or a behavior is in the file. -/
inductive ReportedPath (verdicts : List FeatureVerdict) (x : CrossReferences) (path : String) : Prop
  | source {fv : FeatureVerdict} {l : Language} {v : LanguageVerdict} :
    fv ∈ verdicts → fv.languages.get? l = some v → v.sourcePath? = some path →
      ReportedPath verdicts x path
  | record {k : RecordKind} {rs : List CrossRecord} {r : CrossRecord} {l : Language}
    {is : List Implementation} {i : Implementation} :
    x.get? k = some rs → r ∈ rs → (l, is) ∈ r.implementations.entries → i ∈ is → i.Names path →
      ReportedPath verdicts x path

namespace Page

/-- A cell of the breakdown links to the file of its result. -/
theorem BreakdownCell.source?_ofRow {base? : Option String} {r : Row} {s : Scenario} {l : Language}
    {source : SourceLink} (h : (BreakdownCell.ofRow base? r s l).source? = some source) :
    ∃ res path line?, r.result? l = some res ∧ res.sourcePath? = some path ∧
      source.href = Link.toSource base? path line? := by
  obtain hcell | hcell | hcell | ⟨res, hres, hcell⟩ := ofRow_cases base? r s l
  · cases hcell ▸ h
  · cases hcell ▸ h
  · cases hcell ▸ h
  · rw [hcell] at h
    obtain ⟨path, hpath, rfl⟩ := Option.map_eq_some_iff.1 h
    exact ⟨res, path, _, hres, hpath, rfl⟩

/-- The row of a test links to the files that the test names. -/
theorem RecordTest.exists_names_of_mem_sources {base? : Option String} {l : Language}
    {i : Implementation} {source : SourceLink}
    (h : source ∈ (RecordTest.ofImplementation base? l i).sources) :
    ∃ path line?, i.Names path ∧ source.href = Link.toSource base? path line? := by
  simp only [RecordTest.sources, RecordTest.ofImplementation, List.mem_cons, List.mem_append,
    Option.mem_toList, Option.map_eq_some_iff] at h
  obtain rfl | ⟨s, hs, rfl⟩ | ⟨s, hs, rfl⟩ := h
  · exact ⟨i.testFile, i.testLine?, .inl rfl, rfl⟩
  · exact ⟨s.file, some s.line, .inr ⟨s, .inl hs, rfl⟩, rfl⟩
  · exact ⟨s.file, some s.line, .inr ⟨s, .inr hs, rfl⟩, rfl⟩

section

variable {base? : Option String} {c : Catalog} {d : Disk} {features : List Feature}
  {verdicts : List FeatureVerdict} {x : CrossReferences}

/-- The source of a result is the one of a verdict. -/
theorem reportedPath_of_result? {r : Row} {l : Language} {res : LanguageResult} {path : String}
    (hr : r ∈ (c.matrix d features verdicts x).1.rows) (hres : r.result? l = some res)
    (hpath : res.sourcePath? = some path) : ReportedPath verdicts x path := by
  obtain ⟨fv, v, hfv, hv, hreports⟩ := (Catalog.row_exact hr).result l res hres
  rw [hreports.sourcePath] at hpath
  exact .source (FeatureVerdict.mem_of_joined? hfv) hv hpath

/-- The records of a matrix are those it was given. -/
theorem exists_of_mem_recordsOf {k : RecordKind} {r : CrossRecord}
    (h : r ∈ recordsOf (c.matrix d features verdicts x).1 k) :
    ∃ rs, x.get? k = some rs ∧ r ∈ rs := by
  have hrecords : (c.matrix d features verdicts x).1.crossReferences =
      x.mapValues fun _ rs => rs.mergeSort Matrix.recordBefore := rfl
  rw [recordsOf, hrecords, SortedMap.get?_mapValues] at h
  cases hk : x.get? k with
  | none => simp [hk] at h
  | some rs => exact ⟨rs, rfl, by simpa [hk] using h⟩

/-- Each place that a page links to is a reported path. -/
theorem exists_reportedPath_of_mem_sources {source : SourceLink}
    (h : source ∈ (View.ofMatrix base? (c.matrix d features verdicts x).1).sources) :
    ∃ path line?, ReportedPath verdicts x path ∧
      source.href = Link.toSource base? path line? := by
  obtain h | h := List.mem_append.1 h
  · obtain ⟨b, hb, h⟩ := List.mem_flatMap.1 h
    obtain ⟨t, ht, hb⟩ := List.mem_flatMap.1 hb
    obtain ⟨k, -, rfl⟩ := List.mem_map.1 ht
    obtain ⟨r, hr, rfl⟩ := List.mem_map.1 hb
    obtain ⟨rs, hrs, hr⟩ := exists_of_mem_recordsOf hr
    obtain ⟨test, htest, h⟩ := List.mem_flatMap.1 h
    obtain ⟨⟨l, is⟩, hentry, htest⟩ := List.mem_flatMap.1 htest
    obtain ⟨i, hi, rfl⟩ := List.mem_map.1 htest
    obtain ⟨path, line?, hnames, hhref⟩ := RecordTest.exists_names_of_mem_sources h
    exact ⟨path, line?, .record hrs hr hentry hi hnames, hhref⟩
  · obtain ⟨b, hb, h⟩ := List.mem_flatMap.1 h
    obtain ⟨cell, hcell, h⟩ := List.mem_filterMap.1 h
    obtain ⟨row, hrow, hcell⟩ := List.mem_flatMap.1 hcell
    have hb : b ∈ (breakdownOf base? (c.matrix d features verdicts x).1).flatMap (·.blocks) := hb
    rw [flatMap_breakdownOf] at hb
    obtain ⟨r, hr, rfl⟩ := List.mem_map.1 hb
    obtain ⟨s, -, rfl⟩ := List.mem_map.1 hrow
    obtain ⟨l, -, rfl⟩ := List.mem_map.1 hcell
    obtain ⟨res, path, line?, hres, hpath, hhref⟩ := BreakdownCell.source?_ofRow h
    have hreported : ReportedPath verdicts x path :=
      reportedPath_of_result? (Matrix.mem_rows_of_mem_listedRows hr) hres hpath
    exact ⟨path, line?, hreported, hhref⟩

end

/-! ## Confined links -/

/-- The link leads to a part of the page, to a place below the base at the address of a web page, or
along a path without a scheme. -/
inductive Confined (base? : Option String) : MarkupValue → Prop
  | part (anchor : String) : Confined base? (.toPart anchor)
  | below {link : String} {base rest scheme : List Char} :
    Link.trimmedBase? base? = some base → link.toList = base ++ '/' :: rest →
      scheme ∈ Link.webSchemes → Link.scheme? link.toList = some scheme →
        Confined base? (.text link)
  | along {link : String} : Link.scheme? link.toList = none → Confined base? (.text link)

/-- Below a base that is the address of a web page every link is confined. -/
theorem confined_toSource {base : String} (h : Settings.hasLinkScheme base.toList = true)
    (path : String) (line? : Option Nat) :
    Confined (some base) (.text (Link.toSource (some base) path line?)) := by
  obtain ⟨trimmed, scheme, htrimmed, hweb, hscheme⟩ := Link.exists_scheme_of_hasLinkScheme h
  obtain ⟨rest, hlink⟩ := Link.exists_toSource_of_trimmedBase? htrimmed path line?
  refine .below htrimmed hlink hweb ?_
  rw [hlink, hscheme]

/-- The links of a page of accepted settings are confined, unless no base is configured and a
reported path has a scheme of its own. -/
theorem hrefs_confined (s : Settings) (c : Catalog) (d : Disk) (features : List Feature)
    (verdicts : List FeatureVerdict) (x : CrossReferences) (h : s.check = .ok ()) :
    ∀ v ∈ valuesOfAll "href" (html s.pageOptions (c.matrix d features verdicts x).1),
      Confined s.pageOptions.linkBase? v ∨
        s.pageOptions.linkBase? = none ∧ ∃ path line?, ReportedPath verdicts x path ∧
          Link.scheme? (Text.dropLeads "./".toList path.toList) ≠ none ∧
            v = .text (Link.toSource none path line?) := by
  intro v hv
  rw [hrefs_html] at hv
  split at hv
  · cases hv
  · obtain ⟨anchor, rfl⟩ | ⟨source, hsource, rfl⟩ := mem_hrefs_body hv
    · exact .inl (.part anchor)
    · obtain ⟨path, line?, hreported, hhref⟩ := exists_reportedPath_of_mem_sources hsource
      rw [SourceLink.value, hhref]
      cases hbase : s.pageOptions.linkBase? with
      | some base =>
        have hweb := (Settings.linkBase_of_check h hbase).1
        exact .inl (confined_toSource hweb path line?)
      | none =>
        cases hscheme : Link.scheme? (Text.dropLeads "./".toList path.toList) with
        | none =>
          refine .inl (.along ?_)
          rw [Link.scheme?_toSource_none, hscheme]
        | some scheme =>
          refine .inr ⟨rfl, path, line?, hreported, ?_, rfl⟩
          rw [hscheme]
          exact Option.some_ne_none scheme

theorem hrefs_confined_userLogin :
    Settings.check .default = .ok () ∧
      ∀ v ∈ valuesOfAll "href" (html Settings.default.pageOptions
          ((Catalog.start ⟨"/w"⟩ .default).matrix ⟨[], [], 0⟩ [.userLogin] [.userLogin] ∅).1),
        Confined Settings.default.pageOptions.linkBase? v ∨
          Settings.default.pageOptions.linkBase? = none ∧
            ∃ path line?, ReportedPath [FeatureVerdict.userLogin] ∅ path ∧
              Link.scheme? (Text.dropLeads "./".toList path.toList) ≠ none ∧
                v = .text (Link.toSource none path line?) :=
  ⟨Settings.check_default, hrefs_confined .default _ _ _ _ _ Settings.check_default⟩

def scriptDocument : List String :=
  ["\x7b\"validation_results\": [",
    "\x7b\"feature_file\": \"user/login.feature\",",
    "\"validations\": [",
    "\x7b\"language\": \"Go\",",
    "\"test_file_found\": true,",
    "\"test_file_path\": \"javascript:alert(1)\"\x7d]\x7d]\x7d"]

/-- An output that names a script as the test file of a feature. -/
def scriptOutput : String :=
  String.ofList (joinLines (scriptDocument.map String.toList))

/-- What `scriptOutput` reports. -/
def scriptReport : Report where
  verdicts := [⟨"user/login.feature", .ofList
    [(⟨"go"⟩, ⟨⟨"go"⟩, false, some "javascript:alert(1)", ∅, .pass⟩)]⟩]
  crossReferences := .ofList [(.breakingChange, []), (.behaviorDifference, [])]

/-- Without a base, which accepted settings need not have, the script becomes a link. -/
theorem not_confined_scriptReport :
    Settings.check .default = .ok () ∧
      Report.ofJson ⟨"/w", Settings.default.policy⟩ scriptOutput = .ok scriptReport ∧
      ∃ v ∈ valuesOfAll "href" (html Settings.default.pageOptions
          ((Catalog.start ⟨"/w"⟩ Settings.default.policy).matrix ⟨[], [], 0⟩ [.userLogin]
            scriptReport.verdicts scriptReport.crossReferences).1),
        ¬ Confined Settings.default.pageOptions.linkBase? v := by
  have hbase : Settings.default.pageOptions.linkBase? = none := by decide
  have hreport : Report.ofJson ⟨"/w", Settings.default.policy⟩ scriptOutput = .ok scriptReport := by
    rw [Report.ofJson, ReportDocument.read?, Json.read?, scriptOutput, String.toList_ofList]
    decide +kernel
  refine ⟨Settings.check_default, hreport, .text "javascript:alert(1)", by decide +kernel, ?_⟩
  rw [hbase]
  rintro (_ | ⟨⟨⟩, -, -, -⟩ | hscheme)
  exact absurd hscheme (by decide)

end Page

end SpecCoverage
