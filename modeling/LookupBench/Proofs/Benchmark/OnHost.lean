import LookupBench.Proofs.Benchmark.Order
import LookupBench.Proofs.Benchmark.RoundTrip

/-!
# Reports of a host

A host starts each contender once in each run, and nothing comes of a session there but what can
come of a session. So whatever its programs do, the reports of its benchmarks are complete, and
their summaries are recounts. What a report says of a server that is there is what came of its own
session.
-/

namespace LookupBench.Host

open Benchmark

variable {host : Host} {config : Config} {seed : UInt64} {time : Binary64} {report : Report}
  {files : Files}

section Report

variable (h : (host.benchmark config seed time).result = .ok (report, files))

include h

/-- Every configured server has a summary, and it recounts the results of the server. -/
theorem benchmark_recounts :
    (∀ name, name ∈ report.summary.names ↔ name ∈ config.serverNames) ∧
      ∀ name ∈ config.serverNames, ∃ s, report.summary.get? name = some s ∧
        Recounts s config.runs (resultsOf name report.cases) := by
  have honce := host.eachOnce_circumstances config seed time
  have hreal := host.allReal_circumstances config seed time
  exact ⟨mem_names_summary honce hreal h, fun _ hmem => exists_recounts honce hreal h hmem⟩

/-- There is a record for every run, and each is complete and consistent and was shown so. -/
theorem benchmark_recorded :
    report.cases.length = config.runs ∧
      (∀ (i : Nat) (record : CaseRecord), report.cases[i]? = some record → record.run = i) ∧
      ∃ (root : Path) (segments : List (List Console.Event)),
        (host.benchmark config seed time).events
          = (((host.circumstances config seed time).setup config root).absent.map fun server =>
              .unavailable server.name server.command) ++ segments.flatten ∧
        List.Forall₂ (fun record es => ∃ case,
            Recorded (host.circumstances config seed time) config root case record es)
          report.cases segments := by
  have honce := host.eachOnce_circumstances config seed time
  have hreal := host.allReal_circumstances config seed time
  exact ⟨length_cases honce hreal h, fun _ _ hi => run_eq_of_getElem? honce hreal h hi,
    exists_segments honce hreal h⟩

/-- In each record, the result of a server that is there is what its session in that case came
to. -/
theorem results_eq_session : ∃ root, ∀ record ∈ report.cases, ∃ case,
    PickedCase.ofCase case = .ok record.picked ∧
      ∀ contender ∈ config.servers.filterMap (contender? host.resolve config),
        record.results.get? contender.server.name
          = some (host.session config root contender case).1.result := by
  obtain ⟨root, hrecorded⟩ := exists_recorded (host.eachOnce_circumstances config seed time)
    (host.allReal_circumstances config seed time) h
  refine ⟨root, fun record hmem => ?_⟩
  obtain ⟨case, es, hcase⟩ := hrecorded record hmem
  refine ⟨case, hcase.picked, fun contender hcontender => ?_⟩
  obtain ⟨server, hserver, hcontends⟩ := List.mem_filterMap.1 hcontender
  obtain ⟨program, -, rfl⟩ := Option.map_eq_some_iff.1 hcontends
  obtain ⟨r, hr, -, -, houtcomes⟩ := (hcase.servers server hserver).result
  have hfinished := houtcomes _ (List.mem_map.2 ⟨_, hcontender, rfl⟩)
  exact hr.trans (congrArg some hfinished)

/-- The report is read again as it was written, as long as its numbers fit into their words. -/
theorem benchmark_survives (hsized : (host.circumstances config seed time).AllSized)
    (hruns : config.runs < 2 ^ 64) (htime : time.isFinite = true) : report.Survives :=
  (fits_of_result_run (host.eachOnce_circumstances config seed time)
    (host.allTaken_circumstances config seed time) hsized hruns htime h).survives

end Report

/-- Were the sessions to finish in another order in each run, the report would be the same, or its
failure. -/
theorem benchmark_of_perm
    {conduct : Path → List Contender → Nat → Case → List (String × SessionOutcome)}
    (hperm : ∀ root contenders run case,
      (host.conduct config root contenders run case).Perm (conduct root contenders run case)) :
    (host.benchmark config seed time).result
      = (Benchmark.run { host.circumstances config seed time with conduct } config).result :=
  result_run_of_perm (host.eachOnce_circumstances config seed time) config hperm

end LookupBench.Host
