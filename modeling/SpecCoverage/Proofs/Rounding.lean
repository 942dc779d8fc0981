-- SUMMARY: Operations on dyadic numbers are exact operations rounded to the nearest number of 53 bits, a tie to the even one.
import Mathlib.Algebra.Order.Field.Power
import Mathlib.Data.Rat.Cast.Order
import Mathlib.Tactic.FieldSimp
import Mathlib.Tactic.Linarith
import Mathlib.Tactic.Positivity
import Mathlib.Tactic.Ring
import SpecCoverage.Numeric.Binary64

/-!
# Rounding

`RoundsTo` says what it is to round to 53 bits: no number of 53 bits is nearer, and of two that are
equally near the one with the even mantissa is taken. Each operation does this to its exact result.
This determines the rounded number (`RoundsTo.unique`): of two neighbours only one has an even
mantissa. It follows that rounding is monotone (`RoundsTo.mono`) and leaves a number of 53 bits as
it is (`RoundsTo.exact`).
-/
namespace SpecCoverage

/-! ## Quotients of natural numbers -/

theorem quotient_add_fraction (num : ℕ) {den : ℕ} (hden : 0 < den) :
    (num : ℚ) / den = (num / den : ℕ) + (num % den : ℕ) / den := by
  have hpos : (den : ℚ) ≠ 0 := by exact_mod_cast hden.ne'
  rw [div_eq_iff hpos, add_mul, div_mul_cancel₀ _ hpos]
  exact_mod_cast (Nat.div_add_mod' num den).symm

/-- A quotient is rounded to within one half, and half way between two to the even one. -/
theorem roundQuotient_spec (num : Nat) {den : Nat} (hden : 0 < den) :
    |(roundQuotient num den : ℚ) - num / den| ≤ 1 / 2 ∧
      (|(roundQuotient num den : ℚ) - num / den| = 1 / 2 → Even (roundQuotient num den)) := by
  have hpos : (0 : ℚ) < den := by exact_mod_cast hden
  have hr : num % den < den := Nat.mod_lt num hden
  rw [roundQuotient, quotient_add_fraction num hden]
  generalize num / den = q, num % den = r at hr
  have hlow : (0 : ℚ) ≤ r / den := by positivity
  have hhigh : (r : ℚ) / den < 1 := by
    rw [div_lt_one hpos]
    exact_mod_cast hr
  by_cases hdown : 2 * r < den
  · have hhalf : (r : ℚ) / den < 1 / 2 := by
      rw [div_lt_div_iff₀ hpos two_pos]
      exact_mod_cast (by omega : r * 2 < 1 * den)
    have herror : |(q : ℚ) - (q + r / den)| = r / den := by
      rw [sub_add_cancel_left, abs_neg, abs_of_nonneg hlow]
    rw [if_pos hdown, herror]
    exact ⟨hhalf.le, fun htie => absurd htie hhalf.ne⟩
  rw [if_neg hdown]
  by_cases hup : den < 2 * r
  · have hhalf : 1 / 2 < (r : ℚ) / den := by
      rw [div_lt_div_iff₀ two_pos hpos]
      exact_mod_cast (by omega : 1 * den < r * 2)
    have herror : |((q + 1 : ℕ) : ℚ) - (q + r / den)| = 1 - r / den := by
      rw [abs_of_nonneg] <;> push_cast <;> linarith
    rw [if_pos hup, herror]
    exact ⟨by linarith, fun htie => by linarith⟩
  · have hhalf : (r : ℚ) / den = 1 / 2 := by
      rw [div_eq_div_iff hpos.ne' two_ne_zero]
      exact_mod_cast (by omega : r * 2 = 1 * den)
    rw [if_neg hup, hhalf]
    refine ⟨?_, fun _ => ⟨(q + q % 2) / 2, by omega⟩⟩
    rcases Nat.mod_two_eq_zero_or_one q with hparity | hparity <;> rw [hparity, abs_le] <;>
      push_cast <;> constructor <;> linarith

namespace Dyadic

/-- The number that is meant. -/
def value (d : Dyadic) : ℚ :=
  d.mantissa * 2 ^ d.exponent

theorem value_nonneg (d : Dyadic) : 0 ≤ d.value := by
  unfold value
  positivity

theorem value_eq_zero_iff {d : Dyadic} : d.value = 0 ↔ d.mantissa = 0 := by
  have hpos : (2 : ℚ) ^ d.exponent ≠ 0 := by positivity
  rw [value, mul_eq_zero_iff_right hpos, Nat.cast_eq_zero]

theorem fraction_spec (d : Dyadic) :
    0 < d.fraction.2 ∧ (d.fraction.1 : ℚ) / d.fraction.2 = d.value := by
  obtain ⟨m, e⟩ := d
  cases e with
  | ofNat n =>
    refine ⟨Nat.one_pos, ?_⟩
    simp [fraction, value]
  | negSucc n =>
    refine ⟨Nat.two_pow_pos _, ?_⟩
    simp [fraction, value, div_eq_mul_inv]

theorem scaleDown_spec (num : Nat) {den : Nat} (hden : 0 < den) (e : Int) :
    0 < (scaleDown num den e).2 ∧
      ((scaleDown num den e).1 : ℚ) / (scaleDown num den e).2 = num / den / 2 ^ e := by
  cases e with
  | ofNat n =>
    refine ⟨Nat.mul_pos hden (Nat.two_pow_pos n), ?_⟩
    simp [scaleDown, div_div]
  | negSucc n =>
    refine ⟨hden, ?_⟩
    simp [scaleDown]
    field_simp

/-! ## Numbers of 53 bits -/

/-- A number of at most 53 significant bits. -/
def Representable (v : ℚ) : Prop :=
  ∃ (m : ℕ) (e : ℤ), m < 2 ^ 53 ∧ v = m * 2 ^ e

/-- The number `x` rounded to 53 bits, a tie to the even mantissa. -/
structure RoundsTo (x : ℚ) (d : Dyadic) : Prop where
  normal : d.mantissa = 0 ∨ 2 ^ 52 ≤ d.mantissa ∧ d.mantissa < 2 ^ 53
  nearest : ∀ v, Representable v → |d.value - x| ≤ |v - x|
  even : ∀ v, Representable v → |d.value - x| = |v - x| → v = d.value ∨ Even d.mantissa

/-- A number with its first bit at the place of `2 ^ (52 + e)` or above needs no exponent below
`e`: its mantissa would need one bit more. -/
theorem exponent_le {m : ℕ} {e f : ℤ} (hm : m < 2 ^ 53) (hv : (2 : ℚ) ^ 52 * 2 ^ e ≤ m * 2 ^ f) :
    e ≤ f := by
  by_contra hf
  have hsmall : (2 : ℚ) ^ f ≤ 2 ^ (e - 1) := zpow_le_zpow_right₀ one_le_two (by omega)
  have hhalf : (2 : ℚ) ^ e = 2 * 2 ^ (e - 1) := by
    rw [← zpow_one_add₀ two_ne_zero, add_sub_cancel]
  have hmantissa : (m : ℚ) < 2 ^ 53 := by exact_mod_cast hm
  have hpos : (0 : ℚ) < 2 ^ f := by positivity
  rw [hhalf] at hv
  nlinarith

theorem align (m : ℕ) {e f : ℤ} (hf : e ≤ f) :
    (m : ℚ) * 2 ^ f = (m * 2 ^ (f - e).toNat : ℕ) * 2 ^ e := by
  have hsplit : (2 : ℚ) ^ f = 2 ^ (f - e).toNat * 2 ^ e := by
    rw [← zpow_natCast, Int.toNat_of_nonneg (by omega), ← zpow_add₀ two_ne_zero, sub_add_cancel]
  rw [hsplit]
  push_cast
  ring

theorem Representable.multiple {v : ℚ} (h : Representable v) {e : ℤ} (hv : 2 ^ 52 * 2 ^ e ≤ v) :
    ∃ n : ℕ, v = n * 2 ^ e := by
  obtain ⟨m, f, hm, rfl⟩ := h
  exact ⟨_, align m (exponent_le hm hv)⟩

theorem Representable.half {v : ℚ} (h : Representable v) : Representable (v / 2) := by
  obtain ⟨m, e, hm, rfl⟩ := h
  refine ⟨m, e - 1, hm, ?_⟩
  rw [zpow_sub_one₀ two_ne_zero]
  ring

theorem representable_natCast {n : ℕ} (hn : n < 2 ^ 53) : Representable n :=
  ⟨n, 0, hn, by simp⟩

theorem representable_succ {m : ℕ} (hm : m < 2 ^ 53) (e : ℤ) :
    Representable ((m + 1 : ℕ) * 2 ^ e) := by
  rcases (Nat.succ_le_of_lt hm).lt_or_eq with hless | hfull
  · exact ⟨m + 1, e, hless, rfl⟩
  · refine ⟨2 ^ 52, e + 1, by norm_num, ?_⟩
    rw [show m + 1 = 2 ^ 53 from hfull, zpow_add_one₀ two_ne_zero]
    push_cast
    ring

/-! ### Rounding is determined, and monotone -/

namespace RoundsTo

variable {x y : ℚ} {d d' : Dyadic}

theorem mantissa_lt (h : RoundsTo x d) : d.mantissa < 2 ^ 53 := by
  obtain hzero | ⟨-, hless⟩ := h.normal
  · rw [hzero]
    norm_num
  · exact hless

theorem representable (h : RoundsTo x d) : Representable d.value :=
  ⟨d.mantissa, d.exponent, h.mantissa_lt, rfl⟩

theorem leading_le (h : RoundsTo x d) (hd : d.value ≠ 0) :
    (2 : ℚ) ^ 52 * 2 ^ d.exponent ≤ d.value := by
  have hbits : 2 ^ 52 ≤ d.mantissa := (h.normal.resolve_left (mt value_eq_zero_iff.2 hd)).1
  rw [value]
  gcongr
  exact_mod_cast hbits

/-- A number of 53 bits is left as it is. -/
theorem exact (h : RoundsTo x d) (hx : Representable x) : d.value = x := by
  have hdistance := h.nearest x hx
  rwa [sub_self, abs_zero, abs_nonpos_iff, sub_eq_zero] at hdistance

/-- Of two numbers the nearer one is on the same side of their middle. -/
theorem middle_le {v w z : ℚ} (hlt : v < w) (hnear : |w - z| ≤ |v - z|) : v + w ≤ 2 * z := by
  have hsquares := sq_le_sq.2 hnear
  nlinarith

theorem le_middle {v w z : ℚ} (hlt : v < w) (hnear : |v - z| ≤ |w - z|) : 2 * z ≤ v + w := by
  have hsquares := sq_le_sq.2 hnear
  nlinarith

/-- Between two different roundings of one number there is no number of 53 bits, and both have an
even mantissa. -/
theorem neighbours (h : RoundsTo x d) (h' : RoundsTo x d') (hlt : d.value < d'.value) :
    (∀ v, Representable v → d.value < v → d'.value ≤ v) ∧ Even d.mantissa ∧ Even d'.mantissa := by
  have hdistance : |d.value - x| = |d'.value - x| :=
    le_antisymm (h.nearest _ h'.representable) (h'.nearest _ h.representable)
  refine ⟨?_, (h.even _ h'.representable hdistance).resolve_left hlt.ne',
    (h'.even _ h.representable hdistance.symm).resolve_left hlt.ne⟩
  intro v hv hdv
  have hmiddle := middle_le hlt hdistance.ge
  have hbelow := le_middle hdv (h.nearest v hv)
  linarith

/-- A number is rounded to one value only: of two neighbours one has an odd mantissa. -/
theorem not_lt (h : RoundsTo x d) (h' : RoundsTo x d') : ¬ d.value < d'.value := by
  intro hlt
  obtain ⟨hbetween, heven, heven'⟩ := h.neighbours h' hlt
  by_cases hd : d.value = 0
  · have hhalf := hbetween _ h'.representable.half (by linarith)
    linarith
  · have hpos : (0 : ℚ) < 2 ^ d.exponent := by positivity
    have haligned := align d'.mantissa
      (exponent_le h'.mantissa_lt ((h.leading_le hd).trans hlt.le))
    rw [← value] at haligned
    have hnext : d'.value = (d.mantissa + 1 : ℕ) * 2 ^ d.exponent := by
      apply le_antisymm
      · refine hbetween _ (representable_succ h.mantissa_lt _) ?_
        rw [value]
        gcongr
        exact Nat.lt_succ_self _
      · rw [haligned, value] at hlt
        rw [haligned]
        gcongr
        exact Nat.cast_lt.1 (lt_of_mul_lt_mul_right hlt hpos.le)
    rw [haligned] at hnext
    have hmantissa := Nat.cast_injective (mul_right_cancel₀ hpos.ne' hnext)
    exact Nat.not_even_iff_odd.2 heven.add_one (hmantissa ▸ heven'.mul_right _)

theorem unique (h : RoundsTo x d) (h' : RoundsTo x d') : d.value = d'.value :=
  le_antisymm (le_of_not_gt (h'.not_lt h)) (le_of_not_gt (h.not_lt h'))

theorem mono (h : RoundsTo x d) (h' : RoundsTo y d') (hxy : x ≤ y) : d.value ≤ d'.value := by
  by_contra hlt
  rw [not_le] at hlt
  have hlow := middle_le hlt (h.nearest _ h'.representable)
  have hhigh := le_middle hlt (h'.nearest _ h.representable)
  have heq : x = y := le_antisymm hxy (by linarith)
  subst heq
  exact hlt.ne' (h.unique h')

end RoundsTo

/-! ### Rounding a quotient -/

/-- An integer within one half of a number is nearest among integers. -/
theorem nearest_of_error {m n : ℕ} {x : ℚ} (herror : |(m : ℚ) - x| ≤ 1 / 2)
    (htie : |(m : ℚ) - x| = 1 / 2 → Even m) :
    |(m : ℚ) - x| ≤ |(n : ℚ) - x| ∧ (|(m : ℚ) - x| = |(n : ℚ) - x| → n = m ∨ Even m) := by
  by_cases hnm : n = m
  · rw [hnm]
    exact ⟨le_rfl, fun _ => .inl rfl⟩
  · have hapart : (1 : ℚ) ≤ |(n : ℚ) - m| := by
      have hint : (1 : ℤ) ≤ |(n : ℤ) - m| := Int.one_le_abs (by omega)
      exact_mod_cast hint
    have htriangle := abs_sub_le (n : ℚ) x m
    rw [abs_sub_comm x] at htriangle
    refine ⟨by linarith, fun heq => .inr (htie (le_antisymm herror ?_))⟩
    linarith

theorem abs_sub_scaled (v x : ℚ) (e : ℤ) : |v - x| = |v / 2 ^ e - x / 2 ^ e| * 2 ^ e := by
  have hpos : (0 : ℚ) < 2 ^ e := by positivity
  rw [← sub_div, abs_div, abs_of_pos hpos, div_mul_cancel₀ _ hpos.ne']

theorem rounded_bounds {m : ℕ} {x : ℚ} (hlow : 2 ^ 52 ≤ x) (hhigh : x < 2 ^ 53)
    (herror : |(m : ℚ) - x| ≤ 1 / 2) : 2 ^ 52 ≤ m ∧ m ≤ 2 ^ 53 := by
  obtain ⟨hdown, hup⟩ := abs_le.1 herror
  have hless : ((2 ^ 52 - 1 : ℕ) : ℚ) < m := by push_cast; linarith
  have hmore : (m : ℚ) < (2 ^ 53 + 1 : ℕ) := by push_cast; linarith
  have hless := Nat.cast_lt.1 hless
  have hmore := Nat.cast_lt.1 hmore
  omega

/-- The nearest integer to a scaled number of 53 bits before the point is nearest among all numbers
of 53 bits: those that are no integers are below the least one with 53 bits. -/
theorem nearest_scaled {x v : ℚ} {e : ℤ} {m : ℕ} (hlow : 2 ^ 52 ≤ x / 2 ^ e)
    (herror : |(m : ℚ) - x / 2 ^ e| ≤ 1 / 2)
    (htie : |(m : ℚ) - x / 2 ^ e| = 1 / 2 → Even m) (hv : Representable v) :
    |(m : ℚ) - x / 2 ^ e| ≤ |v / 2 ^ e - x / 2 ^ e| ∧
      (|(m : ℚ) - x / 2 ^ e| = |v / 2 ^ e - x / 2 ^ e| → v = m * 2 ^ e ∨ Even m) := by
  have hpos : (0 : ℚ) < 2 ^ e := by positivity
  by_cases hsmall : v < 2 ^ 52 * 2 ^ e
  · have hless : v / 2 ^ e < 2 ^ 52 := by rwa [div_lt_iff₀ hpos]
    have hleast := (nearest_of_error (n := 2 ^ 52) herror htie).1
    have hcloser : |((2 ^ 52 : ℕ) : ℚ) - x / 2 ^ e| < |v / 2 ^ e - x / 2 ^ e| := by
      push_cast
      rw [abs_of_nonpos (by linarith), abs_of_nonpos (by linarith)]
      linarith
    have hstrict := hleast.trans_lt hcloser
    exact ⟨hstrict.le, fun heq => absurd heq hstrict.ne⟩
  · obtain ⟨n, rfl⟩ := hv.multiple (not_lt.1 hsmall)
    rw [mul_div_cancel_right₀ _ hpos.ne']
    obtain ⟨hnearest, heven⟩ := nearest_of_error (n := n) herror htie
    exact ⟨hnearest, fun heq => (heven heq).imp_left fun hnm => by rw [hnm]⟩

/-- A mantissa of one bit too many moves to the next exponent. -/
def carry (m : ℕ) (e : ℤ) : Dyadic :=
  if m = 2 ^ 53 then ⟨2 ^ 52, e + 1⟩ else ⟨m, e⟩

theorem value_carry (m : ℕ) (e : ℤ) : (carry m e).value = m * 2 ^ e := by
  rw [carry]
  split
  · rename_i hm
    rw [hm, value, zpow_add_one₀ two_ne_zero]
    push_cast
    ring
  · rfl

/-- A number whose mantissa has 53 bits before the point is rounded to 53 bits by rounding the
mantissa to an integer. -/
theorem roundsTo_of_scaled {x : ℚ} {e : ℤ} {m : ℕ} (hlow : 2 ^ 52 ≤ x / 2 ^ e)
    (hhigh : x / 2 ^ e < 2 ^ 53) (herror : |(m : ℚ) - x / 2 ^ e| ≤ 1 / 2)
    (htie : |(m : ℚ) - x / 2 ^ e| = 1 / 2 → Even m) : RoundsTo x (carry m e) := by
  have hpos : (0 : ℚ) < 2 ^ e := by positivity
  have hdistance : |(carry m e).value - x| = |(m : ℚ) - x / 2 ^ e| * 2 ^ e := by
    rw [value_carry, abs_sub_scaled _ x e, mul_div_cancel_right₀ _ hpos.ne']
  obtain ⟨hleast, hmost⟩ := rounded_bounds hlow hhigh herror
  constructor
  case normal =>
    right
    rw [carry]
    split
    · exact ⟨le_rfl, by norm_num⟩
    · rename_i hm
      exact ⟨hleast, lt_of_le_of_ne hmost hm⟩
  case nearest =>
    intro v hv
    rw [hdistance, abs_sub_scaled v x e]
    exact mul_le_mul_of_nonneg_right (nearest_scaled hlow herror htie hv).1 hpos.le
  case even =>
    intro v hv heq
    rw [hdistance, abs_sub_scaled v x e] at heq
    rw [value_carry]
    have hequal := mul_right_cancel₀ hpos.ne' heq
    refine ((nearest_scaled hlow herror htie hv).2 hequal).imp_right fun heven => ?_
    rw [carry]
    split
    · exact ⟨2 ^ 51, by norm_num⟩
    · exact heven

theorem roundsTo_zero : RoundsTo 0 zero where
  normal := .inl rfl
  nearest := by
    intro v _
    simp [value, zero]
  even := by
    intro v _ heq
    left
    simpa [value, zero, eq_comm] using heq

theorem log2_bounds {n : ℕ} (hn : n ≠ 0) :
    (2 : ℚ) ^ (n.log2 : ℤ) ≤ n ∧ (n : ℚ) < 2 ^ (n.log2 + 1 : ℤ) := by
  constructor
  · rw [zpow_natCast]
    exact_mod_cast Nat.log2_self_le hn
  · rw [← Nat.cast_add_one, zpow_natCast]
    exact_mod_cast Nat.lt_log2_self (n := n)

/-- The number of bits of a quotient is known up to one. -/
theorem quotient_bounds {num den : ℕ} (hnum : num ≠ 0) (hden : den ≠ 0) :
    (2 : ℚ) ^ (num.log2 - den.log2 - 1 : ℤ) < num / den ∧
      (num : ℚ) / den < 2 ^ (num.log2 - den.log2 + 1 : ℤ) := by
  obtain ⟨hnumLow, hnumHigh⟩ := log2_bounds hnum
  obtain ⟨hdenLow, hdenHigh⟩ := log2_bounds hden
  have hpos : (0 : ℚ) < den := by exact_mod_cast Nat.pos_of_ne_zero hden
  constructor
  · rw [lt_div_iff₀ hpos]
    calc (2 : ℚ) ^ (num.log2 - den.log2 - 1 : ℤ) * den
        < 2 ^ (num.log2 - den.log2 - 1 : ℤ) * 2 ^ (den.log2 + 1 : ℤ) := by gcongr
      _ = 2 ^ (num.log2 : ℤ) := by
          rw [← zpow_add₀ two_ne_zero]
          congr 1
          ring
      _ ≤ num := hnumLow
  · rw [div_lt_iff₀ hpos]
    calc (num : ℚ) < 2 ^ (num.log2 + 1 : ℤ) := hnumHigh
      _ = 2 ^ (num.log2 - den.log2 + 1 : ℤ) * 2 ^ (den.log2 : ℤ) := by
          rw [← zpow_add₀ two_ne_zero]
          congr 1
          ring
      _ ≤ 2 ^ (num.log2 - den.log2 + 1 : ℤ) * den := by gcongr

/-- Rounding at an exponent at which the mantissa has 53 bits before the point. -/
theorem roundsTo_roundAt {num den : ℕ} (hden : 0 < den) {e : ℤ}
    (hlow : 2 ^ 52 ≤ (num : ℚ) / den / 2 ^ e) (hhigh : (num : ℚ) / den / 2 ^ e < 2 ^ 53) :
    RoundsTo ((num : ℚ) / den) (roundAt num den e) := by
  obtain ⟨hpos, hscaled⟩ := scaleDown_spec num hden e
  obtain ⟨herror, htie⟩ := roundQuotient_spec (scaleDown num den e).1 hpos
  rw [hscaled] at herror htie
  exact roundsTo_of_scaled hlow hhigh herror htie

/-- Rounding gives the nearest number of 53 bits. -/
theorem roundsTo_round (num : ℕ) {den : ℕ} (hden : 0 < den) :
    RoundsTo ((num : ℚ) / den) (round num den) := by
  by_cases hnum : num = 0
  · rw [hnum, Nat.cast_zero, zero_div, round, if_pos rfl]
    exact roundsTo_zero
  obtain ⟨hbelow, habove⟩ := quotient_bounds hnum hden.ne'
  rw [round, if_neg hnum]
  obtain ⟨e, he⟩ : ∃ e : ℤ, e = num.log2 - den.log2 - 52 := ⟨_, rfl⟩
  have hpos : (0 : ℚ) < 2 ^ e := by positivity
  have hhigh : (num : ℚ) / den / 2 ^ e < 2 ^ 53 := by
    rw [show (num.log2 - den.log2 + 1 : ℤ) = (53 : ℕ) + e by omega, zpow_add₀ two_ne_zero,
      zpow_natCast] at habove
    rwa [div_lt_iff₀ hpos]
  obtain ⟨hscaledPos, hscaled⟩ := scaleDown_spec num hden e
  have htest : (scaleDown num den e).1 < (scaleDown num den e).2 * leastMantissa ↔
      (num : ℚ) / den / 2 ^ e < 2 ^ 52 := by
    rw [← hscaled, div_lt_iff₀ (by exact_mod_cast hscaledPos), mul_comm (2 ^ 52 : ℚ)]
    exact_mod_cast Iff.rfl
  simp only [← he, htest]
  split
  · rename_i hless
    -- One bit is missing, so the exponent goes down by one.
    have hdouble : (num : ℚ) / den / 2 ^ (e - 1) = 2 * (num / den / 2 ^ e) := by
      rw [zpow_sub_one₀ two_ne_zero]
      field_simp
    refine roundsTo_roundAt hden ?_ ?_
    · have hlow : (2 : ℚ) ^ 51 < num / den / 2 ^ e := by
        rw [show (num.log2 - den.log2 - 1 : ℤ) = (51 : ℕ) + e by omega, zpow_add₀ two_ne_zero,
          zpow_natCast] at hbelow
        rwa [lt_div_iff₀ hpos]
      rw [hdouble]
      linarith
    · rw [hdouble]
      linarith
  · rename_i hmore
    exact roundsTo_roundAt hden (not_lt.1 hmore) hhigh

theorem roundsTo_ofNat (n : ℕ) : RoundsTo n (ofNat n) := by
  simpa [ofNat] using roundsTo_round n Nat.one_pos

theorem roundsTo_div (x : Dyadic) {y : Dyadic} (hy : y.value ≠ 0) :
    RoundsTo (x.value / y.value) (x.div y) := by
  obtain ⟨hxpos, hx⟩ := x.fraction_spec
  obtain ⟨hypos, hy'⟩ := y.fraction_spec
  have hden : 0 < x.fraction.2 * y.fraction.1 := by
    refine Nat.mul_pos hxpos (Nat.pos_of_ne_zero fun hzero => hy ?_)
    rw [← hy', hzero, Nat.cast_zero, zero_div]
  have hquotient : x.value / y.value =
      ((x.fraction.1 * y.fraction.2 : ℕ) : ℚ) / (x.fraction.2 * y.fraction.1 : ℕ) := by
    rw [← hx, ← hy', div_div_div_eq]
    push_cast
    rfl
  rw [hquotient]
  exact roundsTo_round _ hden

theorem roundsTo_mul (x y : Dyadic) : RoundsTo (x.value * y.value) (x.mul y) := by
  obtain ⟨hxpos, hx⟩ := x.fraction_spec
  obtain ⟨hypos, hy⟩ := y.fraction_spec
  have hproduct : x.value * y.value =
      ((x.fraction.1 * y.fraction.1 : ℕ) : ℚ) / (x.fraction.2 * y.fraction.2 : ℕ) := by
    rw [← hx, ← hy, div_mul_div_comm]
    push_cast
    rfl
  rw [hproduct]
  exact roundsTo_round _ (Nat.mul_pos hxpos hypos)

end Dyadic

end SpecCoverage
