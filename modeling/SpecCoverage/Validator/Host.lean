-- SUMMARY: What runs programs: launches, their outcomes, and the host that carries them out.
import SpecCoverage.Disk.Resolve

/-!
# Hosts

A host has a disk and carries out launches, which may change it. Everything that a run of the
validator depends on besides its settings is the host's.
-/
namespace SpecCoverage

/-- A program to be run in a directory. -/
structure Launch where
  program : Path
  arguments : List String
  directory : Path
  deriving DecidableEq

/-- How a program ended and what it wrote. -/
structure Outcome where
  /-- The exit code; a program that a signal ended has none. -/
  code? : Option Int
  stdout : String
  stderr : String
  deriving DecidableEq

namespace Outcome

def exitedWith (o : Outcome) (codes : List Int) : Bool :=
  o.code?.any fun c => c ∈ codes

def codeLabel (o : Outcome) : String :=
  match o.code? with
  | some c => toString c
  | none => "signal"

end Outcome

/-- A host whose states are of type `σ`. -/
structure Host (σ : Type) where
  disk : σ → Disk
  launch : Launch → σ → Except FileError Outcome × σ

end SpecCoverage
