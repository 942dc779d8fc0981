-- SUMMARY: The verdict of a feature, found by searching the report: the first at its own path, else the first of its file name.
import SpecCoverage.Matrix.Join
import SpecCoverage.Proofs.Order

/-!
# Joining by search

The index of verdicts answers as a plain search through the report does: the first verdict at the
path of the feature (`IsAt`), and where there is none the first for a file of the same name
(`SharesStemWith`).
-/
namespace SpecCoverage

namespace FeatureVerdict

/-- Do the paths of verdict and feature agree? -/
def IsAt (v : FeatureVerdict) (f : Feature) : Prop :=
  normalizePath v.path = normalizePath f.path

/-- Do the file names of verdict and feature agree? -/
def SharesStemWith (v : FeatureVerdict) (f : Feature) : Prop :=
  normalizedStem (normalizePath v.path) = f.stem

instance (v : FeatureVerdict) (f : Feature) : Decidable (v.IsAt f) :=
  inferInstanceAs (Decidable (_ = _))

instance (v : FeatureVerdict) (f : Feature) : Decidable (v.SharesStemWith f) :=
  inferInstanceAs (Decidable (_ = _))

/-- The verdict of a feature among those of a report. -/
def joined? (verdicts : List FeatureVerdict) (f : Feature) : Option FeatureVerdict :=
  (verdicts.find? (·.IsAt f)).or (verdicts.find? (·.SharesStemWith f))

/-- A verdict is at the path of one of several features with different paths only. -/
theorem IsAt.unique {v : FeatureVerdict} {features : List Feature} {f g : Feature}
    (hpaths : (features.map fun f => normalizePath f.path).Nodup) (hf : f ∈ features)
    (hg : g ∈ features) (hvf : v.IsAt f) (hvg : v.IsAt g) : f = g :=
  List.inj_on_of_nodup_map hpaths hf hg (hvf.symm.trans hvg)

theorem mem_of_joined? {verdicts : List FeatureVerdict} {f : Feature} {fv : FeatureVerdict}
    (h : joined? verdicts f = some fv) : fv ∈ verdicts := by
  rw [joined?, Option.or_eq_some_iff] at h
  obtain h | ⟨-, h⟩ := h
  · exact List.mem_of_find?_eq_some h
  · exact List.mem_of_find?_eq_some h

theorem joined?_eq_none_iff {verdicts : List FeatureVerdict} {f : Feature} :
    joined? verdicts f = none ↔ ∀ v ∈ verdicts, ¬ v.IsAt f ∧ ¬ v.SharesStemWith f := by
  simp only [joined?, Option.or_eq_none_iff, List.find?_eq_none, decide_eq_true_eq]
  constructor
  · intro h v hv
    exact ⟨h.1 v hv, h.2 v hv⟩
  · intro h
    exact ⟨fun v hv => (h v hv).1, fun v hv => (h v hv).2⟩

end FeatureVerdict

namespace VerdictIndex

/-- Of the values that a list of verdicts has for a key the index holds the first. -/
theorem get?_ofListFirst_keyed (key : FeatureVerdict → String) (verdicts : List FeatureVerdict)
    (k : String) :
    (SortedMap.ofListFirst (verdicts.map fun v => (key v, v))).get? k =
      verdicts.find? fun v => key v = k := by
  rw [SortedMap.get?_ofListFirst, List.find?_map, Option.map_map]
  exact Option.map_id'

/-- The index finds what a search through the report finds. -/
theorem lookup?_ofVerdicts (verdicts : List FeatureVerdict) (f : Feature) :
    (ofVerdicts verdicts).lookup? f = FeatureVerdict.joined? verdicts f := by
  simp only [lookup?, ofVerdicts, get?_ofListFirst_keyed]
  rfl

end VerdictIndex

/-! ## Two features of one file name -/

namespace Feature

/-- A shared feature with one scenario. -/
def userLogin : Feature :=
  ⟨"user/login.feature", "Login", [], "user", .shared, [⟨"Log in", [], ∅, ∅, ∅⟩]⟩

/-- A shared feature with the file name of `userLogin` in another directory. -/
def adminLogin : Feature :=
  ⟨"admin/login.feature", "Admin login", [], "admin", .shared, [⟨"Log in", [], ∅, ∅, ∅⟩]⟩

end Feature

/-- A verdict that `userLogin` owns. -/
def FeatureVerdict.userLogin : FeatureVerdict :=
  ⟨"user/login.feature", .ofList [(⟨"go"⟩, ⟨⟨"go"⟩, true, some "login_test.go", ∅, .pass⟩)]⟩

end SpecCoverage
