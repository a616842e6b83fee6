import LookupBench.Proofs.Benchmark.Circumstances
import LookupBench.Proofs.Benchmark.Tally

/-!
# What a bucket counts

A bucket is a recount of results: those of one server, in the order of the runs. Only answered
lookups are found, only found ones are valid, and an answered one has a latency, so the figures of a
bucket are in order of size.
-/

namespace LookupBench

/-! ### Results -/

/-- The parts of a result that go together. -/
structure ServerCaseResult.Coherent (r : ServerCaseResult) : Prop where
  ok_of_found : r.found = true → r.ok = true
  found_of_valid : r.anyValid = true → r.found = true
  timed_of_ok : r.ok = true → r.latency.isSome = true

namespace ServerCaseResult

theorem coherent_failed (message : String) : (failed message).Coherent := by
  constructor <;> simp [failed, anyValid]

theorem coherent_ofResult {lookup : LookupResult} (hreal : lookup.Real) :
    (ofResult lookup).Coherent := by
  cases hreal with
  | success locations latency =>
      constructor
      · intro _
        rfl
      · intro hvalid
        cases locations with
        | nil => cases hvalid
        | cons l rest => rfl
      · intro _
        rfl
  | failure cause latency =>
      constructor
      · intro hfound
        cases hfound
      · intro hvalid
        cases hvalid
      · intro hok
        cases hok

end ServerCaseResult

theorem SessionOutcome.Real.coherent {outcome : SessionOutcome} (hreal : outcome.Real) :
    outcome.result.Coherent := by
  cases hreal with
  | completed hreal => exact ServerCaseResult.coherent_ofResult hreal
  | failed message => exact ServerCaseResult.coherent_failed message

/-! ### Buckets -/

def ServerCaseResult.sample (r : ServerCaseResult) : Option Binary64 :=
  if r.ok then r.latency else none

/-- A bucket is the recount of a list of results. -/
structure Bucket.Counts (b : Bucket) (rs : List ServerCaseResult) : Prop where
  ok : b.ok = rs.countP (·.ok)
  found : b.found = rs.countP (·.found)
  valid : b.valid = rs.countP (·.anyValid)
  errors : b.errors = rs.countP (!·.ok)
  timeouts : b.timeouts ≤ b.errors
  latencies : b.latencies = rs.filterMap (·.sample)

namespace Bucket

theorem one_eq (b : Bool) : one b = if b = true then 1 else 0 := rfl

namespace Counts

variable {b : Bucket} {rs : List ServerCaseResult}

theorem empty : Counts .empty [] := ⟨rfl, rfl, rfl, rfl, Nat.le_refl _, rfl⟩

theorem recordFailure (h : b.Counts rs) (message : String) :
    b.recordFailure.Counts (rs ++ [.failed message]) := by
  constructor
  · simp [Bucket.recordFailure, h.ok, ServerCaseResult.failed]
  · simp [Bucket.recordFailure, h.found, ServerCaseResult.failed]
  · simp [Bucket.recordFailure, h.valid, ServerCaseResult.failed, ServerCaseResult.anyValid]
  · simp [Bucket.recordFailure, h.errors, ServerCaseResult.failed]
  · exact Nat.le_succ_of_le h.timeouts
  · simp [Bucket.recordFailure, h.latencies, ServerCaseResult.failed, ServerCaseResult.sample]

theorem record (h : b.Counts rs) (lookup : LookupResult) :
    (b.record lookup (ServerCaseResult.ofResult lookup).anyValid).Counts
      (rs ++ [.ofResult lookup]) := by
  constructor
  · simp [Bucket.record, one_eq, h.ok, ServerCaseResult.ofResult, List.countP_cons]
  · simp [Bucket.record, one_eq, h.found, ServerCaseResult.ofResult, List.countP_cons]
  · simp [Bucket.record, one_eq, h.valid, List.countP_cons]
  · simp [Bucket.record, one_eq, h.errors, ServerCaseResult.ofResult, List.countP_cons]
  · simp only [Bucket.record, one_eq]
    have htimeouts := h.timeouts
    cases lookup.ok <;> cases lookup.timedOut <;> simp <;> omega
  · simp only [Bucket.record, h.latencies, ServerCaseResult.sample, ServerCaseResult.ofResult]
    cases lookup.ok <;> cases lookup.latency <;> simp

theorem count (h : b.Counts rs) (outcome : SessionOutcome) :
    (outcome.count b).Counts (rs ++ [outcome.result]) := by
  cases outcome with
  | completed lookup => exact h.record lookup
  | failed message => exact h.recordFailure message

/-! ### Figures in order of size -/

theorem ok_add_errors (h : b.Counts rs) : b.ok + b.errors = rs.length := by
  rw [h.ok, h.errors, List.length_eq_countP_add_countP (·.ok)]
  simp

theorem found_le_ok (h : b.Counts rs) (hcoherent : ∀ r ∈ rs, r.Coherent) : b.found ≤ b.ok := by
  rw [h.found, h.ok]
  exact List.countP_mono_left fun r hr => (hcoherent r hr).ok_of_found

theorem valid_le_found (h : b.Counts rs) (hcoherent : ∀ r ∈ rs, r.Coherent) :
    b.valid ≤ b.found := by
  rw [h.valid, h.found]
  exact List.countP_mono_left fun r hr => (hcoherent r hr).found_of_valid

/-- Each answered lookup counts with its latency, and nothing else does. -/
theorem latencies_eq (h : b.Counts rs) : b.latencies = (rs.filter (·.ok)).filterMap (·.latency) := by
  rw [h.latencies, List.filterMap_filter]
  rfl

theorem length_latencies (h : b.Counts rs) (hcoherent : ∀ r ∈ rs, r.Coherent) :
    b.latencies.length = b.ok := by
  rw [h.latencies, h.ok, List.length_filterMap_eq_countP]
  apply List.countP_congr
  intro r hr
  have htimed := (hcoherent r hr).timed_of_ok
  unfold ServerCaseResult.sample
  split
  next hok => simp [hok, htimed hok]
  next hok => simp [hok]

end Counts

end Bucket

theorem LatencyStats.count_ofSamples (samples : List Binary64) :
    (ofSamples samples).count = samples.length := by
  simp [ofSamples]

end LookupBench
