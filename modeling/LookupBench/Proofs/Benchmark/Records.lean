import LookupBench.Proofs.Benchmark.Recount

/-!
# The records of a report

A record has a result for every server and for nobody else, and lists as unresolved those servers
that no usable location came from, each with the case of the record and the one reason that fits
what came of the server. What is shown of a run tells of every server once, and tells what the
record says.
-/

namespace LookupBench

/-- The parts of a result that say the same thing in two ways. -/
structure ServerCaseResult.Consistent (r : ServerCaseResult) : Prop where
  count : r.count = r.locations.length
  found : r.found = true ↔ 0 < r.count
  ok : r.ok = true ↔ r.error = none
  failure : r.ok = false → r.found = false ∧ r.locations = []

namespace ServerCaseResult

theorem consistent_failed (message : String) : (failed message).Consistent := by
  constructor <;> simp [failed]

theorem consistent_ofResult {lookup : LookupResult} (hreal : lookup.Real) :
    (ofResult lookup).Consistent := by
  cases hreal with
  | success locations latency =>
      constructor
      · simp [ofResult, LookupResult.success]
      · cases locations <;> simp [ofResult, LookupResult.success]
      · simp [ofResult, LookupResult.success]
      · simp [ofResult, LookupResult.success]
  | failure cause latency => constructor <;> simp [ofResult, LookupResult.failure]

theorem anyValid_failed (message : String) : (failed message).anyValid = false := rfl

theorem anyValid_ofResult (lookup : LookupResult) :
    (ofResult lookup).anyValid = lookup.locations.any Location.isValid := by
  simp [anyValid, ofResult, Function.comp_def]

theorem isEmpty_ofResult (lookup : LookupResult) :
    (ofResult lookup).locations.isEmpty = lookup.locations.isEmpty := by
  simp [ofResult]

end ServerCaseResult

theorem SessionOutcome.Real.consistent {outcome : SessionOutcome} (hreal : outcome.Real) :
    outcome.result.Consistent := by
  cases hreal with
  | completed hreal => exact ServerCaseResult.consistent_ofResult hreal
  | failed message => exact ServerCaseResult.consistent_failed message

namespace SessionOutcome

/-- The reason that an outcome is listed as unresolved for. -/
def reason? (outcome : SessionOutcome) : Option UnresolvedReason := outcome.unresolved.map Prod.fst

theorem reason?_failed (message : String) : (failed message).reason? = some .serverException := rfl

theorem reason?_completed (lookup : LookupResult) :
    (completed lookup).reason? = if lookup.locations.isEmpty then some .noDefinitionLocations
      else if lookup.locations.any Location.isValid then none else some .noValidFileLocation := by
  rw [reason?, unresolved, Option.map_map, ServerCaseResult.unresolvedReason,
    ServerCaseResult.isEmpty_ofResult, ServerCaseResult.anyValid_ofResult]
  exact Option.map_id_apply

theorem isSome_reason? (outcome : SessionOutcome) :
    outcome.reason?.isSome = true ↔ outcome.result.anyValid = false := by
  cases outcome with
  | failed message => simp [reason?_failed, result, ServerCaseResult.anyValid_failed]
  | completed lookup =>
      rw [reason?_completed, result, ServerCaseResult.anyValid_ofResult]
      cases lookup.locations with
      | nil => simp
      | cons l rest => cases h : (l :: rest).any Location.isValid <;> simp

/-- A session that came to nothing has a reason of its own, and each other reason says what the
lookup found. -/
theorem reason?_eq_some_iff (outcome : SessionOutcome) (reason : UnresolvedReason) :
    outcome.reason? = some reason ↔
      match reason with
      | .serverUnavailable => False
      | .serverException => ∃ message, outcome = .failed message
      | .noDefinitionLocations => ∃ lookup, outcome = .completed lookup ∧ lookup.locations = []
      | .noValidFileLocation => ∃ lookup, outcome = .completed lookup ∧ lookup.locations ≠ [] ∧
          ∀ l ∈ lookup.locations, l.isValid = false := by
  cases outcome with
  | failed message => cases reason <;> simp [reason?_failed]
  | completed lookup =>
      rw [reason?_completed]
      cases hlocations : lookup.locations with
      | nil => cases reason <;> simp [hlocations]
      | cons l rest =>
          cases hvalid : (l :: rest).any Location.isValid with
          | true =>
              obtain ⟨l', hmem, hl'⟩ := List.any_eq_true.1 hvalid
              have hnot : ¬∀ l ∈ lookup.locations, l.isValid = false := fun hall => by
                rw [hall l' (hlocations ▸ hmem)] at hl'
                cases hl'
              cases reason <;> simp_all
          | false =>
              have hall : ∀ l ∈ lookup.locations, l.isValid = false := fun l' hmem => by
                simpa using List.any_eq_false.1 hvalid l' (hlocations ▸ hmem)
              cases reason <;> simp_all

end SessionOutcome

/-- The reason that a server is listed for, if it is. -/
def CaseRecord.reason? (record : CaseRecord) (name : String) : Option UnresolvedReason :=
  (record.unresolved.get? name).map (·.reason)

namespace Benchmark

/-! ### One server in one run -/

/-- What a record says of a server, by what came of the server. -/
structure Accounts (c : Circumstances) (outcomes : List (String × SessionOutcome))
    (record : CaseRecord) (server : Server) : Prop where
  /-- There is a result: that of the outcome, or one that says that the server is not there. -/
  result : ∃ r, record.results.get? server.name = some r ∧ r.Consistent ∧
    (c.resolve server.command = none → r = .failed (absentMessage server)) ∧
    ∀ outcome, (server.name, outcome) ∈ outcomes → r = outcome.result
  /-- The server is listed if and only if none of its locations is valid. -/
  listed : ∀ r, record.results.get? server.name = some r →
    ((record.unresolved.get? server.name).isSome = true ↔ ∀ l ∈ r.locations, l.valid = false)
  picked : ∀ u, record.unresolved.get? server.name = some u → u.picked = record.picked
  unavailable : record.reason? server.name = some .serverUnavailable
    ↔ c.resolve server.command = none
  exception : record.reason? server.name = some .serverException
    ↔ ∃ message, (server.name, .failed message) ∈ outcomes
  noLocations : record.reason? server.name = some .noDefinitionLocations
    ↔ ∃ lookup, (server.name, .completed lookup) ∈ outcomes ∧ lookup.locations = []
  noValid : record.reason? server.name = some .noValidFileLocation
    ↔ ∃ lookup, (server.name, .completed lookup) ∈ outcomes ∧ lookup.locations ≠ [] ∧
        ∀ l ∈ lookup.locations, l.isValid = false

theorem anyValid_eq_false_iff {r : ServerCaseResult} :
    r.anyValid = false ↔ ∀ l ∈ r.locations, l.valid = false := by
  simp [ServerCaseResult.anyValid]

section Server

variable {c : Circumstances} {outcomes : List (String × SessionOutcome)} {record : CaseRecord}
  {server : Server}

/-- What stands for a server that is not there is as it should be. -/
theorem accounts_missing (hresolve : c.resolve server.command = none)
    (hnone : server.name ∉ outcomes.map Prod.fst)
    (hresult : record.results.get? server.name = some (.failed (absentMessage server)))
    (hunresolved : record.unresolved.get? server.name
      = some ⟨record.picked, .serverUnavailable, some (absentMessage server)⟩) :
    Accounts c outcomes record server := by
  have hnot : ∀ outcome, (server.name, outcome) ∉ outcomes := fun outcome hmem =>
    hnone (List.mem_map.2 ⟨_, hmem, rfl⟩)
  have hreason : record.reason? server.name = some .serverUnavailable := by
    rw [CaseRecord.reason?, hunresolved]
    rfl
  constructor
  · refine ⟨_, hresult, ServerCaseResult.consistent_failed _, fun _ => rfl, fun outcome hmem => ?_⟩
    exact absurd hmem (hnot outcome)
  · intro r hr
    rw [hresult] at hr
    cases hr
    rw [hunresolved]
    simp [ServerCaseResult.failed]
  · intro u hu
    rw [hunresolved] at hu
    cases hu
    rfl
  · exact iff_of_true hreason hresolve
  · rw [hreason]
    simp [hnot]
  · rw [hreason]
    simp [hnot]
  · rw [hreason]
    simp [hnot]

/-- What stands for a server behind its outcome is as it should be. -/
theorem accounts_after {outcome : SessionOutcome} (hreal : outcome.Real)
    (hresolve : (c.resolve server.command).isSome = true) (hnodup : (outcomes.map Prod.fst).Nodup)
    (houtcome : (server.name, outcome) ∈ outcomes)
    (hresult : record.results.get? server.name = some outcome.result)
    (hunresolved : record.unresolved.get? server.name
      = outcome.unresolved.map fun u => ⟨record.picked, u.1, u.2⟩) :
    Accounts c outcomes record server := by
  have honly : ∀ outcome', (server.name, outcome') ∈ outcomes ↔ outcome' = outcome := by
    intro outcome'
    rw [← entryOf?_eq_some_iff hnodup, (entryOf?_eq_some_iff hnodup).2 houtcome]
    exact ⟨fun h => (Option.some.inj h).symm, fun h => h ▸ rfl⟩
  have hsome : c.resolve server.command ≠ none := Option.isSome_iff_ne_none.1 hresolve
  have hreason : record.reason? server.name = outcome.reason? := by
    rw [CaseRecord.reason?, hunresolved, Option.map_map]
    rfl
  constructor
  · refine ⟨_, hresult, hreal.consistent, fun hnone => absurd hnone hsome, fun outcome' hmem => ?_⟩
    rw [(honly outcome').1 hmem]
  · intro r hr
    rw [hresult] at hr
    cases hr
    rw [← anyValid_eq_false_iff, ← SessionOutcome.isSome_reason?, ← hreason, CaseRecord.reason?,
      Option.isSome_map]
  · intro u hu
    rw [hunresolved] at hu
    obtain ⟨reason, -, rfl⟩ := Option.map_eq_some_iff.1 hu
    rfl
  · rw [hreason, SessionOutcome.reason?_eq_some_iff]
    exact iff_of_false id hsome
  · rw [hreason, SessionOutcome.reason?_eq_some_iff]
    simp only [honly, eq_comm]
  · rw [hreason, SessionOutcome.reason?_eq_some_iff]
    simp only [honly, eq_comm]
  · rw [hreason, SessionOutcome.reason?_eq_some_iff]
    simp only [honly, eq_comm]

end Server

/-! ### One run -/

theorem events_enterAbsent (servers : List Server) (t : Tally) :
    (enterAbsent servers t).1
      = servers.map fun server => .finished server.name (.failed (absentMessage server)) := by
  induction servers generalizing t with
  | nil => rfl
  | cons server rest ih => exact congrArg (_ :: ·) (ih _)

theorem events_enterAll (entries : List (String × SessionOutcome)) (t : Tally) :
    (enterAll entries t).1 = entries.map fun e => .finished e.1 e.2.result := by
  induction entries generalizing t with
  | nil => rfl
  | cons e rest ih =>
      rw [enterAll, List.map_cons, ← ih, Tally.add_eq]

theorem run_enterAbsent (servers : List Server) (t : Tally) :
    (enterAbsent servers t).2.record.run = t.record.run := by
  induction servers generalizing t with
  | nil => rfl
  | cons server rest ih => exact ih _

/-- What a run with a case leaves behind: its record, and the events that it is shown by. -/
structure Recorded (c : Circumstances) (config : Config) (root : Path) (case : Case)
    (record : CaseRecord) (es : List Console.Event) : Prop where
  picked : PickedCase.ofCase case = .ok record.picked
  results : ∀ name, name ∈ record.results.names ↔ name ∈ config.serverNames
  unresolved : ∀ name ∈ record.unresolved.names, name ∈ config.serverNames
  servers : ∀ server ∈ config.servers,
    Accounts c ((c.setup config root).conduct record.run case) record server
  /-- Between the case and the end of the run each server is shown once, with its result. -/
  shown : ∃ finished : List (String × ServerCaseResult),
    es = .picked record.run config.runs case
          ((c.setup config root).contenders.map (·.server.name)) ::
        (finished.map fun e => .finished e.1 e.2) ++ [.runFinished record.run] ∧
      (finished.map Prod.fst).Perm config.serverNames ∧
      ∀ e ∈ finished, record.results.get? e.1 = some e.2

section Run

variable {c : Circumstances} {config : Config} {root : Path}

theorem names_contenders : (c.setup config root).contenders.map (·.server.name)
    = (config.servers.filter fun server => (c.resolve server.command).isSome).map (·.name) := by
  simp only [Circumstances.setup]
  induction config.servers with
  | nil => rfl
  | cons server rest ih =>
      cases hresolve : c.resolve server.command <;>
        simp [contender?, hresolve, ih]

/-- Every server is there or not. -/
theorem perm_serverNames : ((c.setup config root).absent.map (·.name)
    ++ (c.setup config root).contenders.map (·.server.name)).Perm config.serverNames := by
  rw [names_contenders, ← List.map_append]
  have hsplit := List.filter_append_perm (fun server => (c.resolve server.command).isNone)
    config.servers
  simp only [Option.not_isNone] at hsplit
  exact hsplit.map _

theorem eq_of_new {run : Nat} {case : Case} {record : CaseRecord}
    (h : CaseRecord.new run case = .ok record) :
    PickedCase.ofCase case = .ok record.picked ∧ record = ⟨run, record.picked, .empty, .empty⟩ := by
  unfold CaseRecord.new at h
  cases hpicked : PickedCase.ofCase case with
  | error cause =>
      rw [hpicked] at h
      cases h
  | ok picked =>
      rw [hpicked] at h
      cases h
      exact ⟨rfl, rfl⟩

variable (root) in
/-- Each server has its part of the record of a run. -/
theorem accounts_tally (honce : c.EachOnce) (hreal : c.AllReal) (hnames : config.serverNames.Nodup)
    (run : Nat) (case : Case) (picked : PickedCase) (buckets : Table Bucket) {server : Server}
    (hserver : server ∈ config.servers) :
    Accounts c ((c.setup config root).conduct run case)
      ((c.setup config root).tally run case ⟨run, picked, .empty, .empty⟩ buckets).2.record
      server := by
  have hpicked : ((c.setup config root).tally run case ⟨run, picked, .empty, .empty⟩
      buckets).2.record.picked = picked := by
    simp only [Setup.tally, picked_enterAll, picked_enterAbsent]
  cases hresolve : c.resolve server.command with
  | none =>
      have habsent : server ∈ (c.setup config root).absent :=
        mem_absent.2 ⟨hserver, by rw [hresolve]; rfl⟩
      have hentry := entry_tally_absent root honce hnames run case ⟨run, picked, .empty, .empty⟩
        buckets habsent
      refine accounts_missing hresolve (fun hfinished => ?_)
        (congrArg Tally.Entry.result hentry) ?_
      · exact notMem_absent hnames ((honce.perm config root run case).mem_iff.1 hfinished)
          (List.mem_map.2 ⟨server, habsent, rfl⟩)
      · rw [hpicked]
        exact congrArg Tally.Entry.unresolved hentry
  | some program =>
      have hsome : (c.resolve server.command).isSome = true := by rw [hresolve]; rfl
      obtain ⟨outcome, houtcome⟩ := exists_outcome root honce run case hserver hsome
      have hentry := entry_tally_outcome root honce hnames run case ⟨run, picked, .empty, .empty⟩
        buckets houtcome
      refine accounts_after (hreal root _ run case _ houtcome) hsome
        (honce.nodup hnames root run case) houtcome (congrArg Tally.Entry.result hentry) ?_
      rw [hpicked]
      exact (congrArg Tally.Entry.unresolved hentry).trans (Option.or_none)

variable (root) in
/-- Nobody else has a part of it. -/
theorem entry_tally_other (honce : c.EachOnce) (run : Nat) (case : Case) (picked : PickedCase)
    (buckets : Table Bucket) {name : String} (hnot : name ∉ config.serverNames) :
    let t := ((c.setup config root).tally run case ⟨run, picked, .empty, .empty⟩ buckets).2
    t.record.results.get? name = none ∧ t.record.unresolved.get? name = none := by
  have hentry := entry_tally_of_notMem root honce run case ⟨run, picked, .empty, .empty⟩ buckets
    hnot
  exact ⟨congrArg Tally.Entry.result hentry, congrArg Tally.Entry.unresolved hentry⟩

variable (root) in
theorem recorded_tally (honce : c.EachOnce) (hreal : c.AllReal) (hnames : config.serverNames.Nodup)
    {run : Nat} {case : Case} {record : CaseRecord} (hrecord : CaseRecord.new run case = .ok record)
    (buckets : Table Bucket) :
    ((c.setup config root).tally run case record buckets).2.record.run = run ∧
      Recorded c config root case ((c.setup config root).tally run case record buckets).2.record
        (.picked run config.runs case ((c.setup config root).contenders.map (·.server.name)) ::
          ((c.setup config root).tally run case record buckets).1 ++ [.runFinished run]) := by
  obtain ⟨hcase, hfresh⟩ := eq_of_new hrecord
  generalize record.picked = picked at hcase hfresh
  subst hfresh
  have haccounts := fun server (hserver : server ∈ config.servers) =>
    accounts_tally root honce hreal hnames run case picked buckets hserver
  have hother := fun name (hnot : name ∉ config.serverNames) =>
    entry_tally_other root honce run case picked buckets hnot
  have hrun : ((c.setup config root).tally run case ⟨run, picked, .empty, .empty⟩
      buckets).2.record.run = run := by
    simp only [Setup.tally, run_enterAll, run_enterAbsent]
  have hpicked : ((c.setup config root).tally run case ⟨run, picked, .empty, .empty⟩
      buckets).2.record.picked = picked := by
    simp only [Setup.tally, picked_enterAll, picked_enterAbsent]
  have hevents : ((c.setup config root).tally run case ⟨run, picked, .empty, .empty⟩ buckets).1
      = ((c.setup config root).absent.map fun server =>
          .finished server.name (.failed (absentMessage server)))
        ++ ((c.setup config root).conduct run case).map fun e => .finished e.1 e.2.result := by
    simp only [Setup.tally, events_enterAbsent, events_enterAll]
  generalize (c.setup config root).tally run case ⟨run, picked, .empty, .empty⟩ buckets = t at *
  refine ⟨hrun, ?_⟩
  constructor
  · rw [hpicked]
    exact hcase
  · intro name
    rw [Table.mem_names_iff]
    by_cases hmem : name ∈ config.serverNames
    · obtain ⟨server, hserver, rfl⟩ := List.mem_map.1 hmem
      obtain ⟨r, hr, -⟩ := (haccounts server hserver).result
      simp [hr, hmem]
    · simp [(hother name hmem).1, hmem]
  · intro name hlisted
    by_contra hnot
    rw [Table.mem_names_iff, (hother name hnot).2] at hlisted
    cases hlisted
  · rw [hrun]
    exact haccounts
  · refine ⟨((c.setup config root).absent.map fun server =>
        (server.name, .failed (absentMessage server)))
      ++ ((c.setup config root).conduct run case).map fun e => (e.1, e.2.result), ?_, ?_, ?_⟩
    · rw [hrun, hevents]
      simp [Function.comp_def]
    · have hperm := (honce.perm config root run case).append_left
        ((c.setup config root).absent.map (·.name))
      simpa [Function.comp_def] using hperm.trans perm_serverNames
    · intro e hmem
      rcases List.mem_append.1 hmem with hmem | hmem
      · obtain ⟨server, habsent, rfl⟩ := List.mem_map.1 hmem
        obtain ⟨hserver, hnone⟩ := mem_absent.1 habsent
        obtain ⟨r, hr, -, hmissing, -⟩ := (haccounts server hserver).result
        rw [hr, hmissing (Option.isNone_iff_eq_none.1 hnone)]
      · obtain ⟨⟨name, outcome⟩, houtcome, rfl⟩ := List.mem_map.1 hmem
        have hcontender := (honce.perm config root run case).mem_iff.1
          (List.mem_map.2 ⟨_, houtcome, rfl⟩)
        obtain ⟨server, hserver, -, rfl⟩ := mem_contenders.1 hcontender
        obtain ⟨r, hr, -, -, houtcomes⟩ := (haccounts server hserver).result
        rw [hr, houtcomes outcome houtcome]

/-- So many runs leave so many records, numbered in order, and are shown one after the other. -/
theorem recorded_runs (honce : c.EachOnce) (hreal : c.AllReal) (hnames : config.serverNames.Nodup) :
    ∀ {left run : Nat} {p p' : Progress},
      ((c.setup config root).runs left run p).result = .ok p' →
      ∃ (records : List CaseRecord) (segments : List (List Console.Event)),
        p'.cases = p.cases ++ records ∧ records.length = left ∧
        (∀ (i : Nat) (record : CaseRecord), records[i]? = some record → record.run = run + i) ∧
        ((c.setup config root).runs left run p).events = segments.flatten ∧
        List.Forall₂ (fun record es => ∃ case, Recorded c config root case record es)
          records segments := by
  intro left
  induction left with
  | zero =>
      intro run p p' heq
      cases heq
      exact ⟨[], [], (List.append_nil _).symm, rfl, by simp, rfl, .nil⟩
  | succ left ih =>
      intro run p p' heq
      simp only [Setup.runs] at heq ⊢
      split at heq
      · cases heq
      next case picker hpick =>
        split at heq
        · cases heq
        next record hrecord =>
          obtain ⟨hrun, hrecorded⟩ := recorded_tally root honce hreal hnames hrecord p.buckets
          obtain ⟨records, segments, hcases, hlength, hnumbers, hevents, hall⟩ := ih heq
          refine ⟨_ :: records, _ :: segments, ?_, ?_, ?_, ?_, .cons ⟨case, hrecorded⟩ hall⟩
          · rw [hcases, List.append_assoc]
            rfl
          · rw [List.length_cons, hlength]
          · intro i record' hi
            cases i with
            | zero =>
                cases hi
                exact hrun
            | succ i =>
                rw [hnumbers i record' hi]
                omega
          · rw [List.flatten_cons, ← hevents, List.append_assoc]
            rfl

end Run

/-! ### The report -/

/-- What is shown of a benchmark that got ready: the servers that are not there, then the runs. -/
theorem events_run {c : Circumstances} {config : Config} {root : Path} {picker : Picker}
    (h : prepare c.files (config.seed.getD c.seed) config = .ok (root, picker)) :
    (run c config).events
      = ((c.setup config root).absent.map fun server => .unavailable server.name server.command)
        ++ ((c.setup config root).runs config.runs 0 (.opening config picker)).events := by
  unfold run
  dsimp only
  rw [h]
  rfl

section Report

variable {c : Circumstances} {config : Config} {report : Report} {files : Files}
  (honce : c.EachOnce) (hreal : c.AllReal) (h : (run c config).result = .ok (report, files))

include honce hreal h

/-- The records are numbered by their places. -/
theorem run_eq_of_getElem? {i : Nat} {record : CaseRecord} (hi : report.cases[i]? = some record) :
    record.run = i := by
  obtain ⟨root, picker, p, hprepare, hruns, rfl⟩ := parts_of_result_run h
  obtain ⟨records, -, hcases, -, hnumbers, -, -⟩ :=
    recorded_runs honce hreal (Config.nodup_serverNames (check_of_prepare hprepare)) hruns
  obtain rfl : p.cases = records := hcases
  rw [hnumbers i record hi, Nat.zero_add]

/-- Each record is complete and consistent, and was shown so. -/
theorem exists_segments : ∃ (root : Path) (segments : List (List Console.Event)),
    (run c config).events
        = ((c.setup config root).absent.map fun server =>
            .unavailable server.name server.command) ++ segments.flatten ∧
      List.Forall₂ (fun record es => ∃ case, Recorded c config root case record es)
        report.cases segments := by
  obtain ⟨root, picker, p, hprepare, hruns, rfl⟩ := parts_of_result_run h
  obtain ⟨records, segments, hcases, -, -, hevents, hall⟩ :=
    recorded_runs honce hreal (Config.nodup_serverNames (check_of_prepare hprepare)) hruns
  obtain rfl : p.cases = records := hcases
  exact ⟨root, segments, by rw [events_run hprepare, hevents], hall⟩

theorem exists_recorded : ∃ root, ∀ record ∈ report.cases, ∃ case es,
    Recorded c config root case record es := by
  obtain ⟨root, segments, -, hall⟩ := exists_segments honce hreal h
  refine ⟨root, fun record hmem => ?_⟩
  obtain ⟨i, hi, rfl⟩ := List.mem_iff_getElem.1 hmem
  obtain ⟨case, hrecorded⟩ := hall.get hi (hall.length_eq ▸ hi)
  exact ⟨case, _, hrecorded⟩

end Report

/-- A report has a record for every run, in order, and each record is complete and consistent; what
is shown while the runs go on tells the same. -/
theorem cases_recorded {c : Circumstances} {config : Config} {report : Report} {files : Files}
    (honce : c.EachOnce) (hreal : c.AllReal) (h : (run c config).result = .ok (report, files)) :
    report.cases.length = config.runs ∧
      (∀ (i : Nat) (record : CaseRecord), report.cases[i]? = some record → record.run = i) ∧
      config.serverNames.Nodup ∧
      ∃ (root : Path) (segments : List (List Console.Event)), (run c config).events
          = ((c.setup config root).absent.map fun server =>
              .unavailable server.name server.command) ++ segments.flatten ∧
        List.Forall₂ (fun record es => ∃ case, Recorded c config root case record es)
          report.cases segments :=
  ⟨length_cases honce hreal h, fun _ _ hi => run_eq_of_getElem? honce hreal h hi,
    nodup_of_result_run h, exists_segments honce hreal h⟩

theorem cases_recorded_small : ∃ report files,
    (run small smallConfig).result = .ok (report, files) ∧ report.cases.length = 1 ∧
      (∀ (i : Nat) (record : CaseRecord), report.cases[i]? = some record → record.run = i) ∧
      smallConfig.serverNames.Nodup ∧
      ∃ (root : Path) (segments : List (List Console.Event)), (run small smallConfig).events
          = ((small.setup smallConfig root).absent.map fun server =>
              .unavailable server.name server.command) ++ segments.flatten ∧
        List.Forall₂ (fun record es => ∃ case, Recorded small smallConfig root case record es)
          report.cases segments := by
  obtain ⟨report, files, hresult⟩ := exists_report_small
  exact ⟨report, files, hresult, cases_recorded eachOnce_small allReal_small hresult⟩

end Benchmark

end LookupBench
