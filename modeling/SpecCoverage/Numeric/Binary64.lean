-- SUMMARY: Double-precision numbers as exact values: rounding, comparison, bits, and one decimal place.

/-!
# Double precision

A finite number is a sign and a dyadic magnitude, so every operation can be said exactly: take the
rational result and round it to 53 significant bits, a tie to the even neighbour. Magnitudes are far
from overflow and underflow wherever results are rounded here.
-/
namespace SpecCoverage

/-- Round a quotient to the nearest natural number, a tie to the even one. -/
def roundQuotient (num den : Nat) : Nat :=
  let q := num / den
  let r := num % den
  if 2 * r < den then q else if den < 2 * r then q + 1 else q + q % 2

/-- The number `mantissa * 2 ^ exponent`. -/
structure Dyadic where
  mantissa : Nat
  exponent : Int
  deriving DecidableEq, Inhabited

namespace Dyadic

/-- Numerator and denominator. -/
def fraction (d : Dyadic) : Nat × Nat :=
  match d.exponent with
  | .ofNat n => (d.mantissa * Nat.pow 2 n, 1)
  | .negSucc n => (d.mantissa, Nat.pow 2 (n + 1))

/-- `num / (den * 2 ^ e)` as a quotient of natural numbers. -/
def scaleDown (num den : Nat) : Int → Nat × Nat
  | .ofNat n => (num, den * Nat.pow 2 n)
  | .negSucc n => (num * Nat.pow 2 (n + 1), den)

def zero : Dyadic := ⟨0, 0⟩

/-- The smallest mantissa with all 53 bits. -/
def leastMantissa : Nat := Nat.pow 2 52

/-- The mantissa at an exponent; one that would need a bit more moves to the next exponent. -/
def roundAt (num den : Nat) (e : Int) : Dyadic :=
  let (a, b) := scaleDown num den e
  let m := roundQuotient a b
  if m = 2 * leastMantissa then ⟨leastMantissa, e + 1⟩ else ⟨m, e⟩

/-- The quotient rounded to 53 significant bits. -/
def round (num den : Nat) : Dyadic :=
  if num = 0 then zero
  else
    let e : Int := num.log2 - den.log2 - 52
    let (a, b) := scaleDown num den e
    roundAt num den (if a < b * leastMantissa then e - 1 else e)

def div (x y : Dyadic) : Dyadic :=
  let (a, b) := x.fraction
  let (c, d) := y.fraction
  round (a * d) (b * c)

def mul (x y : Dyadic) : Dyadic :=
  let (a, b) := x.fraction
  let (c, d) := y.fraction
  round (a * c) (b * d)

def ofNat (n : Nat) : Dyadic :=
  round n 1

/-- Is the number at least `n`? -/
def atLeast (x : Dyadic) (n : Nat) : Bool :=
  let (a, b) := x.fraction
  n * b ≤ a

/-- The smaller of the number and `n`. -/
def min (x : Dyadic) (n : Nat) : Dyadic :=
  if x.atLeast n then ofNat n else x

/-- The nearest multiple of a tenth, with one decimal place. -/
def toTenths (x : Dyadic) : String :=
  let (a, b) := x.fraction
  let t := roundQuotient (10 * a) b
  s!"{t / 10}.{t % 10}"

end Dyadic

/-! ## All double-precision numbers -/

inductive Binary64 where
  | nan
  | infinite (negative : Bool)
  | finite (negative : Bool) (magnitude : Dyadic)
  deriving DecidableEq, Inhabited

namespace Binary64

/-- Is the number at least a positive `n`? Nothing is at most or at least a NaN. -/
def atLeast : Binary64 → Nat → Bool
  | .nan, _ => false
  | .infinite negative, _ => !negative
  | .finite true x, n => n == 0 && x.mantissa == 0
  | .finite false x, n => x.atLeast n

/-- The number with the given bits: a sign, eleven bits of exponent, 52 bits of mantissa. -/
def ofBits (bits : Nat) : Binary64 :=
  let negative := bits / Nat.pow 2 63 % 2 = 1
  let biased : Nat := bits / Nat.pow 2 52 % Nat.pow 2 11
  let rest := bits % Nat.pow 2 52
  if biased = 2047 then if rest = 0 then .infinite negative else .nan
  else if biased = 0 then .finite negative ⟨rest, -1074⟩
  else .finite negative ⟨Dyadic.leastMantissa + rest, (biased : Int) - 1075⟩

/-- The bits of a magnitude that is zero or has all 53 bits. -/
def magnitudeBits (x : Dyadic) : Nat :=
  if x.mantissa = 0 then 0
  else (x.exponent + 1075).toNat * Nat.pow 2 52 + (x.mantissa - Dyadic.leastMantissa)

/-- The bits of a number; a NaN has the quiet bit alone. -/
def toBits : Binary64 → Nat
  | .nan => 2047 * Nat.pow 2 52 + Nat.pow 2 51
  | .infinite negative => (if negative then Nat.pow 2 63 else 0) + 2047 * Nat.pow 2 52
  | .finite negative x => (if negative then Nat.pow 2 63 else 0) + magnitudeBits x

end Binary64

end SpecCoverage
