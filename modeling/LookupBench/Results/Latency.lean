import LookupBench.Number.Binary64

/-!
# Latencies

Figures over the latencies of one server. Samples are put in the total order of binary64 numbers,
in which equal ones are the same; so no figure depends on the order in which they came in.
-/

namespace LookupBench

open scoped Power

structure LatencyStats where
  count : Nat
  p50 : Option Binary64
  p95 : Option Binary64
  min : Option Binary64
  max : Option Binary64
  mean : Option Binary64
  deriving DecidableEq, Repr

/-- The largest index a word can hold. -/
def indexLimit : Int := 2 ^ (64 : Nat) - 1

/-- The sample at the fraction `q` of the way, with no interpolation. -/
def percentile (sorted : List Binary64) (q : Binary64) : Option Binary64 :=
  let place := ((Binary64.ofNat sorted.length).mul q).truncateWithin 0 indexLimit
  sorted[min place.toNat (sorted.length - 1)]?

/-- The sum in order, from the negative zero, which adds nothing. -/
def sum (xs : List Binary64) : Binary64 := xs.foldl Binary64.add (.zero true)

namespace LatencyStats

def half : Binary64 := .ofRatio false 1 2

def nineteenTwentieths : Binary64 := .ofRatio false 19 20

def ofSamples (samples : List Binary64) : LatencyStats :=
  let sorted := samples.mergeSort Binary64.totalLe
  { count := sorted.length
    p50 := percentile sorted half
    p95 := percentile sorted nineteenTwentieths
    min := sorted.head?
    max := sorted.getLast?
    mean := if sorted.isEmpty then none
      else some ((sum sorted).div (.ofNat sorted.length)) }

end LatencyStats

end LookupBench
