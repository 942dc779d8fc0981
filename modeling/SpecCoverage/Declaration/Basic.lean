-- SUMMARY: Test declarations: where they stand, what they are called, how they were recognized.
import SpecCoverage.Order.SortedSet

/-!
# Test declarations

Declarations are ordered by line, then name, then style.
-/
namespace SpecCoverage

/-- How a declaration was recognized, in the order in which equal names on a line are listed. -/
inductive DeclarationStyle where
  /-- A quoted name in a test-case form. -/
  | testCase
  /-- A method after a test annotation. -/
  | annotated
  /-- A function with a test attribute. -/
  | attribute
  /-- A function whose name starts with `test_`. -/
  | convention
  /-- A function without a result. -/
  | voidFunction
  deriving DecidableEq

namespace DeclarationStyle

def rank : DeclarationStyle → Nat
  | .testCase => 0
  | .annotated => 1
  | .attribute => 2
  | .convention => 3
  | .voidFunction => 4

theorem rank_injective {s t : DeclarationStyle} (h : s.rank = t.rank) : s = t := by
  cases s <;> cases t <;> simp_all [rank]

end DeclarationStyle

/-- What a line declares: a name and how it was recognized. -/
structure Declared where
  name : String
  style : DeclarationStyle
  deriving DecidableEq

namespace Declared

def order : Declared → Declared → Ordering :=
  compareLex (compareOn name) (compareOn fun d => d.style.rank)

instance : Ord Declared := ⟨order⟩

instance : Std.TransOrd Declared := inferInstanceAs (Std.TransCmp (compareLex _ _))

instance : Std.LawfulEqOrd Declared where
  compare_self {a} := by
    have h : (compare a.name a.name).then (compare a.style.rank a.style.rank) = .eq := by simp
    exact h
  eq_of_compare {a b} h := by
    have h : (compare a.name b.name).then (compare a.style.rank b.style.rank) = .eq := h
    obtain ⟨hn, hs⟩ := Ordering.then_eq_eq.1 h
    cases a; cases b
    simp only [mk.injEq]
    exact ⟨Std.LawfulEqCmp.eq_of_compare hn,
      DeclarationStyle.rank_injective (Std.LawfulEqCmp.eq_of_compare hs)⟩

end Declared

/-- A declaration in a text; lines count from one. -/
structure Declaration where
  line : Nat
  declared : Declared
  deriving DecidableEq

end SpecCoverage
