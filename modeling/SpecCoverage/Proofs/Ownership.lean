-- SUMMARY: Whose verdict a feature takes: the first at its own path, else the first of its file name, whoever owns it.
import SpecCoverage.Proofs.FullRank

/-!
# Whose verdict a feature takes

A verdict is owned by the feature at its path. A feature that owns verdicts takes the first of them
and nothing else. A feature that owns none takes the first verdict for a file of its name, and it
does not matter to the join whether another feature owns that one.
-/
namespace SpecCoverage

/-- A row says what a verdict says, language by language. -/
structure Row.Follows (r : Row) (fv : FeatureVerdict) : Prop where
  present : ∀ l, (r.result? l).isSome ↔ (fv.languages.get? l).isSome
  reports : ∀ l v res, fv.languages.get? l = some v → r.result? l = some res →
    res.Reports v l r.feature.scenarioNames

theorem Row.Exact.follows {r : Row} {axis : List Language} {fv : FeatureVerdict}
    (h : r.Exact axis (some fv)) : r.Follows fv where
  present := by
    intro l
    rw [h.present]
    constructor
    · rintro ⟨_, ⟨⟩, hl⟩
      exact hl
    · intro hl
      exact ⟨fv, rfl, hl⟩
  reports := by
    intro l v res hv hres
    obtain ⟨_, w, ⟨⟩, hw, hreports⟩ := h.result l res hres
    rw [hv] at hw
    cases hw
    exact hreports

theorem Row.Exact.result?_eq_none {r : Row} {axis : List Language} (h : r.Exact axis none)
    (l : Language) : r.result? l = none := by
  rw [← Option.not_isSome_iff_eq_none, h.present]
  rintro ⟨_, ⟨⟩, -⟩

/-- A feature without a verdict of its own is absent, unless a verdict that no other feature owns is
for a file of its name. -/
def Matrix.LeavesOwned (m : Matrix) (features : List Feature) (verdicts : List FeatureVerdict) :
    Prop :=
  ∀ r ∈ m.rows, (∀ fv ∈ verdicts, ¬ fv.IsAt r.feature) →
    (∀ fv ∈ verdicts, fv.SharesStemWith r.feature → ∃ g ∈ features, g ≠ r.feature ∧ fv.IsAt g) →
      ∀ l, r.result? l = none

/-- Each row follows the first verdict that its feature owns, which no other feature owns; a feature
without one follows the first verdict for a file of its name, owned or not, or is absent. -/
structure Matrix.JoinedByPath (m : Matrix) (features : List Feature)
    (verdicts : List FeatureVerdict) : Prop where
  own : ∀ r ∈ m.rows, ∀ fv, verdicts.find? (·.IsAt r.feature) = some fv →
    r.Follows fv ∧ ∀ g ∈ features, fv.IsAt g → g = r.feature
  borrowed : ∀ r ∈ m.rows, (∀ fv ∈ verdicts, ¬ fv.IsAt r.feature) →
    ∀ fv, verdicts.find? (·.SharesStemWith r.feature) = some fv → r.Follows fv
  absent : ∀ r ∈ m.rows, (∀ fv ∈ verdicts, ¬ fv.IsAt r.feature) →
    (∀ fv ∈ verdicts, ¬ fv.SharesStemWith r.feature) → ∀ l, r.result? l = none

namespace FeatureVerdict

variable {verdicts : List FeatureVerdict} {f : Feature} {fv : FeatureVerdict}

theorem joined?_of_isAt (h : verdicts.find? (·.IsAt f) = some fv) :
    joined? verdicts f = some fv := by
  rw [joined?, h, Option.some_or]

theorem joined?_of_not_isAt (hnone : ∀ v ∈ verdicts, ¬ v.IsAt f)
    (h : verdicts.find? (·.SharesStemWith f) = some fv) : joined? verdicts f = some fv := by
  have hpath : verdicts.find? (·.IsAt f) = none := by
    simpa only [List.find?_eq_none, decide_eq_true_eq] using hnone
  rw [joined?, hpath, Option.none_or, h]

theorem isAt_of_find? (h : verdicts.find? (·.IsAt f) = some fv) : fv.IsAt f := by
  simpa using List.find?_some h

end FeatureVerdict

namespace Catalog

variable {c : Catalog} {d : Disk} {features : List Feature} {verdicts : List FeatureVerdict}
  {crossReferences : CrossReferences}

theorem row_follows {r : Row} {fv : FeatureVerdict}
    (hr : r ∈ (c.matrix d features verdicts crossReferences).1.rows)
    (h : FeatureVerdict.joined? verdicts r.feature = some fv) : r.Follows fv := by
  have hexact := row_exact hr
  rw [h] at hexact
  exact hexact.follows

theorem exists_row {f : Feature} (hf : f ∈ features) :
    ∃ r ∈ (c.matrix d features verdicts crossReferences).1.rows, r.feature = f := by
  refine List.mem_map.1 ?_
  rwa [matrix_features, List.mem_mergeSort]

/-- A verdict at the path of a feature goes to that feature; only a feature without a verdict of its
own takes one by its file name. -/
theorem matrix_joinedByPath (c : Catalog) (d : Disk) (features : List Feature)
    (verdicts : List FeatureVerdict) (crossReferences : CrossReferences)
    (hpaths : (features.map fun f => normalizePath f.path).Nodup) :
    (c.matrix d features verdicts crossReferences).1.JoinedByPath features verdicts where
  own := by
    intro r hr fv hfv
    refine ⟨row_follows hr (FeatureVerdict.joined?_of_isAt hfv), ?_⟩
    intro g hg hat
    exact FeatureVerdict.IsAt.unique hpaths hg (Matrix.mem_features_of_mem_rows hr) hat
      (FeatureVerdict.isAt_of_find? hfv)
  borrowed := by
    intro r hr hnone fv hfv
    exact row_follows hr (FeatureVerdict.joined?_of_not_isAt hnone hfv)
  absent := by
    intro r hr hpath hstem l
    have hjoined : FeatureVerdict.joined? verdicts r.feature = none :=
      FeatureVerdict.joined?_eq_none_iff.2 fun fv hfv => ⟨hpath fv hfv, hstem fv hfv⟩
    have hexact := row_exact hr
    rw [hjoined] at hexact
    exact hexact.result?_eq_none l

theorem matrix_joinedByPath_logins :
    ([Feature.userLogin, .adminLogin].map fun f => normalizePath f.path).Nodup ∧
      ((start ⟨"/w"⟩ .default).matrix ⟨[], [], 0⟩ [.userLogin, .adminLogin] [.userLogin]
        ∅).1.JoinedByPath [.userLogin, .adminLogin] [.userLogin] :=
  ⟨by decide, matrix_joinedByPath _ _ _ _ _ (by decide)⟩

/-- The verdict of one feature is taken by another of the same file name. -/
theorem not_leavesOwned_logins :
    ([Feature.userLogin, .adminLogin].map fun f => normalizePath f.path).Nodup ∧
      ¬ ((start ⟨"/w"⟩ .default).matrix ⟨[], [], 0⟩ [.userLogin, .adminLogin] [.userLogin]
        ∅).1.LeavesOwned [.userLogin, .adminLogin] [.userLogin] := by
  refine ⟨by decide, fun h => ?_⟩
  -- `adminLogin` owns no verdict, and the one for its file name is owned by `userLogin`.
  have hrow : ∃ r ∈ ((start ⟨"/w"⟩ .default).matrix ⟨[], [], 0⟩ [.userLogin, .adminLogin]
      [.userLogin] ∅).1.rows, r.feature = .adminLogin := exists_row (by decide)
  obtain ⟨r, hr, hadmin⟩ := hrow
  have hfollows : r.Follows .userLogin := row_follows hr (by rw [hadmin]; decide)
  have habsent : r.result? ⟨"go"⟩ = none := by
    refine h r hr ?_ ?_ ⟨"go"⟩
    · rw [hadmin]
      decide
    · rw [hadmin]
      decide
  have hpresent := (hfollows.present ⟨"go"⟩).2 (by decide)
  rw [habsent] at hpresent
  cases hpresent

end Catalog

end SpecCoverage
