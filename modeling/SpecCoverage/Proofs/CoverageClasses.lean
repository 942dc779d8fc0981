-- SUMMARY: Rounding moves no percentage across the bound of a coverage class.
import Mathlib.Algebra.Order.Field.Basic
import Mathlib.Data.Rat.Cast.Order
import Mathlib.Tactic.Linarith
import Mathlib.Tactic.NormNum
import SpecCoverage.Matrix.Summary
import SpecCoverage.Proofs.Rounding

/-!
# Coverage classes

A percentage is two roundings away from the exact share of the scenarios that are implemented, and
neither 4/5 nor 3/5 is a number of 53 bits. Both roundings are monotone, so a larger share never has
a smaller percentage (`IsRoundedPercentage.mono`). For each bound it is then enough to compute two
percentages: the one of the share that is to reach the bound, and the one of the largest smaller
share that the size of the counts allows (`atLeast_percentageOf_iff`).
-/
namespace SpecCoverage

namespace Dyadic

theorem atLeast_iff (d : Dyadic) (n : ℕ) : d.atLeast n = true ↔ (n : ℚ) ≤ d.value := by
  obtain ⟨hpos, hvalue⟩ := d.fraction_spec
  rw [atLeast, decide_eq_true_iff, ← hvalue, le_div_iff₀ (by exact_mod_cast hpos)]
  exact_mod_cast Iff.rfl

theorem value_ofNat {n : ℕ} (hn : n < 2 ^ 53) : (ofNat n).value = n :=
  (roundsTo_ofNat n).exact (representable_natCast hn)

theorem value_min {n : ℕ} (hn : n < 2 ^ 53) (d : Dyadic) :
    (d.min n).value = Min.min d.value n := by
  by_cases hle : d.atLeast n = true
  · rw [Dyadic.min, if_pos hle, value_ofNat hn, min_eq_right ((atLeast_iff d n).1 hle)]
  · rw [Dyadic.min, if_neg hle, min_eq_left (le_of_not_ge (mt (atLeast_iff d n).2 hle))]

end Dyadic

namespace LanguageSummary

variable {implemented total implemented' total' : ℕ} {p p' : ℚ}

/-! ## Monotonicity -/

/-- The number is `implemented / total * 100`, each operation rounded, and at least 0 and at most
100. -/
def IsRoundedPercentage (implemented total : ℕ) (p : ℚ) : Prop :=
  ∃ a b quotient product : Dyadic, Dyadic.RoundsTo implemented a ∧ Dyadic.RoundsTo total b ∧
    Dyadic.RoundsTo (a.value / b.value) quotient ∧
    Dyadic.RoundsTo (quotient.value * 100) product ∧ p = max 0 (min product.value 100)

/-- Counts that are exact as numbers of 53 bits. -/
structure ExactCounts (implemented total : ℕ) : Prop where
  le : implemented ≤ total
  pos : 0 < total
  small : total < 2 ^ 53

instance : Decidable (ExactCounts implemented total) :=
  decidable_of_iff (implemented ≤ total ∧ 0 < total ∧ total < 2 ^ 53)
    ⟨fun ⟨hle, hpos, hsmall⟩ => ⟨hle, hpos, hsmall⟩, fun h => ⟨h.le, h.pos, h.small⟩⟩

namespace ExactCounts

theorem implemented_small (h : ExactCounts implemented total) : implemented < 2 ^ 53 :=
  h.le.trans_lt h.small

theorem castPos (h : ExactCounts implemented total) : (0 : ℚ) < total := by
  exact_mod_cast h.pos

end ExactCounts

theorem percentageOf_rounded (h : ExactCounts implemented total) :
    IsRoundedPercentage implemented total (percentageOf implemented total).value := by
  have hdivisor : (Dyadic.ofNat total).value ≠ 0 := by
    rw [Dyadic.value_ofNat h.small]
    exact h.castPos.ne'
  have hproduct := Dyadic.roundsTo_mul ((Dyadic.ofNat implemented).div (.ofNat total)) (.ofNat 100)
  rw [Dyadic.value_ofNat (by norm_num), Nat.cast_ofNat] at hproduct
  refine ⟨_, _, _, _, Dyadic.roundsTo_ofNat implemented, Dyadic.roundsTo_ofNat total,
    Dyadic.roundsTo_div _ hdivisor, hproduct, ?_⟩
  have hnonneg := Dyadic.value_nonneg (percentageOf implemented total)
  rw [percentageOf, if_neg h.pos.ne', Dyadic.value_min (by norm_num), Nat.cast_ofNat] at hnonneg ⊢
  rw [max_eq_right hnonneg]

/-- A larger share has no smaller percentage. -/
theorem IsRoundedPercentage.mono (hp : IsRoundedPercentage implemented total p)
    (hp' : IsRoundedPercentage implemented' total' p') (h : ExactCounts implemented total)
    (h' : ExactCounts implemented' total')
    (hshare : implemented * total' ≤ implemented' * total) : p ≤ p' := by
  obtain ⟨a, b, quotient, product, ha, hb, hquotient, hproduct, rfl⟩ := hp
  obtain ⟨a', b', quotient', product', ha', hb', hquotient', hproduct', rfl⟩ := hp'
  rw [ha.exact (Dyadic.representable_natCast h.implemented_small),
    hb.exact (Dyadic.representable_natCast h.small)] at hquotient
  rw [ha'.exact (Dyadic.representable_natCast h'.implemented_small),
    hb'.exact (Dyadic.representable_natCast h'.small)] at hquotient'
  have hexact : (implemented : ℚ) / total ≤ implemented' / total' := by
    rw [div_le_div_iff₀ h.castPos h'.castPos]
    exact_mod_cast hshare
  have hquotients : quotient.value ≤ quotient'.value := hquotient.mono hquotient' hexact
  have hproducts : product.value ≤ product'.value := hproduct.mono hproduct' (by linarith)
  exact max_le_max le_rfl (min_le_min hproducts le_rfl)

theorem percentageOf_mono (h : ExactCounts implemented total) (h' : ExactCounts implemented' total')
    (hshare : implemented * total' ≤ implemented' * total) :
    (percentageOf implemented total).value ≤ (percentageOf implemented' total').value :=
  (percentageOf_rounded h).mono (percentageOf_rounded h') h h' hshare

/-- The share `a / b` reaches a bound that the share `c / d` misses, and no share is between them. -/
theorem atLeast_percentageOf_iff {n a b c d : ℕ} (h : ExactCounts implemented total)
    (hab : ExactCounts a b) (hreach : (percentageOf a b).atLeast n = true)
    (hcd : ExactCounts c d) (hmiss : (percentageOf c d).atLeast n = false)
    (hgap : implemented * b < a * total → implemented * d ≤ c * total) :
    (percentageOf implemented total).atLeast n = true ↔ a * total ≤ implemented * b := by
  constructor
  · intro hreached
    by_contra hless
    have hle := percentageOf_mono h hcd (hgap (not_le.1 hless))
    rw [Dyadic.atLeast_iff] at hreached
    rw [← Bool.not_eq_true, Dyadic.atLeast_iff] at hmiss
    exact hmiss (hreached.trans hle)
  · intro hshare
    rw [Dyadic.atLeast_iff] at hreach ⊢
    exact hreach.trans (percentageOf_mono hab h hshare)

/-! ## The bounds -/

section Bounds

variable (hle : implemented ≤ total) (hpos : 0 < total) (hmax : total ≤ 2 ^ 50)
include hle hpos hmax

theorem exactCounts : ExactCounts implemented total :=
  ⟨hle, hpos, by omega⟩

theorem atLeast_hundred_iff :
    (percentageOf implemented total).atLeast 100 = true ↔ implemented = total := by
  rw [atLeast_percentageOf_iff (a := 1) (b := 1) (c := 2 ^ 50 - 1) (d := 2 ^ 50)
    (exactCounts hle hpos hmax) (by decide) (by decide) (by decide) (by decide) (by omega)]
  omega

/-- The share next below 4/5 is 900719925474099 of `2 ^ 50`. -/
theorem atLeast_eighty_iff :
    (percentageOf implemented total).atLeast 80 = true ↔ 4 * total ≤ 5 * implemented := by
  rw [atLeast_percentageOf_iff (a := 4) (b := 5) (c := 900719925474099) (d := 2 ^ 50)
    (exactCounts hle hpos hmax) (by decide) (by decide) (by decide) (by decide) (by omega)]
  omega

/-- The share next below 3/5 is at most 2702159776422297 of `2 ^ 52`. -/
theorem atLeast_sixty_iff :
    (percentageOf implemented total).atLeast 60 = true ↔ 3 * total ≤ 5 * implemented := by
  rw [atLeast_percentageOf_iff (a := 3) (b := 5) (c := 2702159776422297) (d := 2 ^ 52)
    (exactCounts hle hpos hmax) (by decide) (by decide) (by decide) (by decide) (by omega)]
  omega

theorem percentageOf_eq_zero_iff :
    (percentageOf implemented total).value = 0 ↔ implemented = 0 := by
  have hcounts := exactCounts hle hpos hmax
  constructor
  · intro hzero
    by_contra hsome
    have hleast : ExactCounts 1 (2 ^ 50) := by decide
    have hmono := percentageOf_mono hleast hcounts (by omega)
    have hnone : (percentageOf 1 (2 ^ 50)).value = 0 :=
      le_antisymm (hmono.trans hzero.le) (Dyadic.value_nonneg _)
    exact absurd (Dyadic.value_eq_zero_iff.1 hnone) (by decide)
  · intro hnone
    have hempty : ExactCounts 0 1 := by decide
    have hmono := percentageOf_mono hcounts hempty (by omega)
    have hzero : (percentageOf 0 1).value = 0 := Dyadic.value_eq_zero_iff.2 (by decide)
    exact le_antisymm (hmono.trans hzero.le) (Dyadic.value_nonneg _)

end Bounds

/-! ## Summaries -/

/-- The summary states the counts, their rounded percentage, and the class of the exact share. -/
structure Measures (s : LanguageSummary) (implemented total : ℕ) : Prop where
  counts : s.implemented = implemented ∧ s.total = total
  rounded : IsRoundedPercentage implemented total s.percentage.value
  bounded : 0 ≤ s.percentage.value ∧ s.percentage.value ≤ 100
  full : s.percentage.value = 100 ↔ implemented = total
  empty : s.percentage.value = 0 ↔ implemented = 0
  high : s.coverageClass = .high ↔ 4 * total ≤ 5 * implemented
  medium : s.coverageClass = .medium ↔ 5 * implemented < 4 * total ∧ 3 * total ≤ 5 * implemented
  low : s.coverageClass = .low ↔ 5 * implemented < 3 * total

theorem coverageClass_ofCounts (l : Language) (hle : implemented ≤ total) (hpos : 0 < total)
    (hmax : total ≤ 2 ^ 50) :
    (ofCounts l implemented total).coverageClass =
      if 4 * total ≤ 5 * implemented then .high
      else if 3 * total ≤ 5 * implemented then .medium
      else .low := by
  simp only [ofCounts, CoverageClass.ofPercentage, if_neg hpos.ne', Binary64.atLeast,
    atLeast_eighty_iff hle hpos hmax, atLeast_sixty_iff hle hpos hmax]

/-- A summary of up to `2 ^ 50` scenarios is never in the wrong class. -/
theorem ofCounts_measures (l : Language) (hle : implemented ≤ total) (hpos : 0 < total)
    (hmax : total ≤ 2 ^ 50) :
    (ofCounts l implemented total).Measures implemented total := by
  have hrounded := percentageOf_rounded (exactCounts hle hpos hmax)
  have hbounded : (percentageOf implemented total).value ≤ 100 := by
    obtain ⟨_, _, _, product, -, -, -, -, hvalue⟩ := hrounded
    rw [hvalue]
    exact max_le (by norm_num) (min_le_right _ _)
  have hclass := coverageClass_ofCounts l hle hpos hmax
  constructor
  case counts => exact ⟨rfl, rfl⟩
  case rounded => exact hrounded
  case bounded => exact ⟨Dyadic.value_nonneg _, hbounded⟩
  case full =>
    rw [← atLeast_hundred_iff hle hpos hmax, Dyadic.atLeast_iff, Nat.cast_ofNat]
    exact ⟨fun heq => heq.ge, fun hge => le_antisymm hbounded hge⟩
  case empty => exact percentageOf_eq_zero_iff hle hpos hmax
  case high =>
    rw [hclass]
    split_ifs <;> simp <;> omega
  case medium =>
    rw [hclass]
    split_ifs <;> simp <;> omega
  case low =>
    rw [hclass]
    split_ifs <;> simp <;> omega

/-- The largest share below 4/5 is still below 80 percent. -/
theorem ofCounts_measures_next_below :
    900719925474099 ≤ 2 ^ 50 ∧ 0 < 2 ^ 50 ∧ 2 ^ 50 ≤ 2 ^ 50 ∧
      (ofCounts .core 900719925474099 (2 ^ 50)).Measures 900719925474099 (2 ^ 50) ∧
      (ofCounts .core 900719925474099 (2 ^ 50)).coverageClass = .medium := by
  have hmeasures : (ofCounts .core 900719925474099 (2 ^ 50)).Measures 900719925474099 (2 ^ 50) :=
    ofCounts_measures .core (by decide) (by decide) (by decide)
  exact ⟨by decide, by decide, by decide, hmeasures, hmeasures.medium.2 (by decide)⟩

end LanguageSummary

end SpecCoverage
