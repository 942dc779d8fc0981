-- SUMMARY: Languages under canonical keys, and the policy that resolves aliases and orders them.
import SpecCoverage.Order.SortedMap
import SpecCoverage.Order.SortedSet
import SpecCoverage.Text.Ascii
import SpecCoverage.Text.Blank

/-!
# Languages

A language is known by its key: the name without blanks around it and in lower case. A policy
renames some languages and puts some in front of all others.
-/
namespace SpecCoverage

open Text

structure Language where
  key : String
  deriving DecidableEq, Inhabited

namespace Language

instance : Ord Language := ⟨compareOn key⟩

instance : Std.TransOrd Language := inferInstanceAs (Std.TransCmp (compareOn key))

instance : Std.LawfulEqOrd Language where
  compare_self {a} := by
    have h : compare a.key a.key = .eq := Std.ReflCmp.compare_self
    exact h
  eq_of_compare {a b} h := by
    have h : compare a.key b.key = .eq := h
    cases a; cases b
    exact congrArg mk (Std.LawfulEqCmp.eq_of_compare h)

/-- The language that any spelling of its name stands for. -/
def ofName (name : String) : Language :=
  ⟨String.ofList (lowerAscii (trim name.toList))⟩

/-- The label in headings: the key with a capital letter. -/
def label (l : Language) : String :=
  String.ofList (capitalizeAscii l.key.toList)

/-- The language of the core driver. -/
def core : Language := ⟨"core"⟩

end Language

/-! ## The language policy -/

/-- Which languages stand for others, and which come first. -/
structure LanguagePolicy where
  aliases : SortedMap Language Language
  pinned : List Language
  pinned_nodup : pinned.Nodup

namespace LanguagePolicy

/-- The list without the repetitions of earlier elements. -/
def firsts {α : Type} [DecidableEq α] : List α → List α
  | [] => []
  | x :: xs => x :: (firsts xs).filter (· ≠ x)

theorem firsts_nodup {α : Type} [DecidableEq α] (xs : List α) : (firsts xs).Nodup := by
  induction xs with
  | nil => exact .nil
  | cons x xs ih =>
    refine List.nodup_cons.2 ⟨?_, ih.sublist List.filter_sublist⟩
    simp [List.mem_filter]

/-- Of two targets for one alias the later one holds; of a pinned name given twice the first
place holds. -/
def ofNames (aliases : List (String × String)) (pinned : List String) : LanguagePolicy where
  aliases := .ofList (aliases.map fun (source, target) => (.ofName source, .ofName target))
  pinned := firsts (pinned.map .ofName)
  pinned_nodup := firsts_nodup _

/-- Names of the core driver's implementation language count for the core driver, which comes
first. -/
def default : LanguagePolicy :=
  ofNames [("rust", "core")] ["core"]

instance : Inhabited LanguagePolicy := ⟨default⟩

/-- The language a name stands for. Aliases are followed once. -/
def resolve (p : LanguagePolicy) (name : String) : Language :=
  (p.aliases.get? (.ofName name)).getD (.ofName name)

/-- Each of the languages once: the pinned ones as pinned, then the others by key. -/
def order (p : LanguagePolicy) (languages : List Language) : List Language :=
  let present := SortedSet.ofList languages
  p.pinned.filter (· ∈ present) ++ present.toList.filter (· ∉ p.pinned)

end LanguagePolicy

end SpecCoverage
