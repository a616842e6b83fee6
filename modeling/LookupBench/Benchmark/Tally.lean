import LookupBench.Benchmark.Query
import LookupBench.Results.Report

/-!
# Keeping the tally

What comes of a server in a run goes into the record of the run and into the server's bucket. An
entry touches nothing but the entries of its own server.
-/

namespace LookupBench

/-- The record of the run at hand, and the buckets of all runs. -/
structure Tally where
  record : CaseRecord
  buckets : Table Bucket
  deriving DecidableEq

namespace Tally

def bucket (name : String) (t : Tally) : Bucket := (t.buckets.get? name).getD .empty

/-- Put down what came of a server, the reason if it counts as unresolved, and its bucket. -/
def enter (name : String) (result : ServerCaseResult)
    (unresolved : Option (UnresolvedReason × Option String)) (bucket : Bucket) (t : Tally) :
    Tally where
  record := { t.record with
    results := t.record.results.put name result
    unresolved := match unresolved with
      | some (reason, error) => t.record.unresolved.put name ⟨t.record.picked, reason, error⟩
      | none => t.record.unresolved }
  buckets := t.buckets.put name bucket

/-- A server that is not there. -/
def absent (name message : String) (t : Tally) : ServerCaseResult × Tally :=
  let result := ServerCaseResult.failed message
  (result, t.enter name result (some (.serverUnavailable, some message))
    (t.bucket name).recordFailure)

/-- What came of a session. -/
def add (name : String) (outcome : SessionOutcome) (t : Tally) : ServerCaseResult × Tally :=
  match outcome with
  | .completed lookup =>
    let result := ServerCaseResult.ofResult lookup
    (result, t.enter name result (result.unresolvedReason.map fun reason => (reason, lookup.error))
      ((t.bucket name).record lookup result.anyValid))
  | .failed message =>
    let result := ServerCaseResult.failed message
    (result, t.enter name result (some (.serverException, some message))
      (t.bucket name).recordFailure)

end Tally

end LookupBench
