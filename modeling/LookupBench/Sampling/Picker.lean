import LookupBench.Sampling.Case
import LookupBench.Sampling.Discovery

/-!
# Picking cases

A picker holds the list of sources and a generator. For each case it draws a file and a case in it;
a file that yields none is passed over for another draw, up to a limit. The same seed over the same
files gives the same cases.
-/

namespace LookupBench

structure Picker where
  sources : List Path
  generator : Random.Generator
  maxTries : Nat

namespace Picker

/-- Files drawn for one case before it is given up. -/
def defaultTries : Nat := 50

def new (files : Files) (root : Path) (seed : UInt64) : Except SamplingFailure Picker :=
  let found := files.sources root
  if found.isEmpty then .error (.noSources root)
  else .ok ⟨found, .ofSeed seed, defaultTries⟩

/-- The picker with another limit, at least one. -/
def withMaxTries (p : Picker) (tries : Nat) : Picker := { p with maxTries := max tries 1 }

/-- Draw files until one yields a case. `last` is the failure of the file before. -/
def pickFrom (files : Files) (sources : List Path) (limit : Nat) :
    Nat → Option SamplingFailure → Random.Generator →
      Except SamplingFailure Case × Random.Generator
  | 0, last, g => (.error (.exhausted limit ((last.map (·.message)).getD "")), g)
  | tries + 1, last, g =>
    match g.choose sources with
    | (none, g) => (.error (.exhausted limit ((last.map (·.message)).getD "")), g)
    | (some file, g) =>
      match Case.fromFile files file g with
      | (.ok case, g) => (.ok case, g)
      | (.error cause, g) => pickFrom files sources limit tries (some cause) g

/-- The next case, and the picker that goes on behind it. -/
def pick (p : Picker) (files : Files) : Except SamplingFailure Case × Picker :=
  let (result, g) := pickFrom files p.sources p.maxTries p.maxTries none p.generator
  (result, { p with generator := g })

end Picker

end LookupBench
