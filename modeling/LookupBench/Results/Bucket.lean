import LookupBench.Client.Failure
import LookupBench.Results.Latency

/-!
# Counts

A bucket counts what came of the lookups of one server. A lookup that failed adds no latency, so
limits on waiting do not show in the figures.
-/

namespace LookupBench

structure Bucket where
  ok : Nat
  found : Nat
  valid : Nat
  errors : Nat
  timeouts : Nat
  latencies : List Binary64
  deriving DecidableEq, Repr

structure ServerSummary where
  ok : Nat
  okPercent : Binary64
  found : Nat
  foundPercent : Binary64
  valid : Nat
  validPercent : Binary64
  errors : Nat
  timeouts : Nat
  latency : LatencyStats
  deriving DecidableEq, Repr

/-- The share of `count` in `runs`, at most a hundred; zero of no runs. -/
def percent (count runs : Nat) : Binary64 :=
  if runs = 0 then .zero false
  else
    let hundred := Binary64.ofNat 100
    let share := (hundred.mul (.ofNat count)).div (.ofNat runs)
    if hundred.lt share then hundred else share

namespace Bucket

def empty : Bucket := ⟨0, 0, 0, 0, 0, []⟩

instance : Inhabited Bucket := ⟨empty⟩

def one (b : Bool) : Nat := if b then 1 else 0

/-- Count a lookup that was answered or failed. -/
def record (r : LookupResult) (anyValid : Bool) (b : Bucket) : Bucket where
  ok := b.ok + one r.ok
  found := b.found + one r.found
  valid := b.valid + one anyValid
  errors := b.errors + one (!r.ok)
  timeouts := b.timeouts + one (!r.ok && r.timedOut)
  latencies := if r.ok then b.latencies ++ r.latency.toList else b.latencies

/-- Count a run in which there was no lookup at all. -/
def recordFailure (b : Bucket) : Bucket := { b with errors := b.errors + 1 }

def summarize (runs : Nat) (b : Bucket) : ServerSummary where
  ok := b.ok
  okPercent := percent b.ok runs
  found := b.found
  foundPercent := percent b.found runs
  valid := b.valid
  validPercent := percent b.valid runs
  errors := b.errors
  timeouts := b.timeouts
  latency := .ofSamples b.latencies

end Bucket

end LookupBench
