import LookupBench.Proofs.Benchmark.Run
import LookupBench.Proofs.Results.Count
import LookupBench.Proofs.Results.Percent
import LookupBench.Proofs.Sampling.Draw

/-!
# The summary recounts the cases

Three ways lead into a bucket: a session that came to a lookup, one that broke off, and a server
that is not there. Each puts down one result in the record of the run as well. So after any number
of runs the bucket of a server is the recount of its results in all records.

A percentage of a summary is the exact one, rounded once, unless there are so many runs that a
hundred times their number is rounded as well. A report over that many shows the bound at work.
-/

namespace LookupBench.Benchmark

/-! ### One run -/

/-- What one run makes of the entry of a server. -/
inductive Next (picked : PickedCase) (e : Tally.Entry) : Tally.Entry → Prop where
  | missing (message : String) : Next picked e (e.missing picked message)
  | after {outcome : SessionOutcome} (hreal : outcome.Real) :
      Next picked e (e.after picked outcome)

section Step

variable {c : Circumstances} {config : Config} (root : Path) (honce : c.EachOnce)
  (hreal : c.AllReal) (hnames : config.serverNames.Nodup) (run : Nat) (case : Case)
  (record : CaseRecord) (buckets : Table Bucket)

include honce hnames

/-- A server that is not there is put down as missing. -/
theorem entry_tally_absent {server : Server} (habsent : server ∈ (c.setup config root).absent) :
    ((c.setup config root).tally run case record buckets).2.entry server.name
      = ((⟨record, buckets⟩ : Tally).entry server.name).missing record.picked
          (absentMessage server) := by
  have hnot : server.name ∉ ((c.setup config root).conduct run case).map Prod.fst := by
    intro hfinished
    have hcontender := (honce.perm config root run case).mem_iff.1 hfinished
    exact notMem_absent hnames hcontender (List.mem_map.2 ⟨server, habsent, rfl⟩)
  simp only [Setup.tally]
  rw [entry_enterAll_of_notMem _ _ _ hnot, entry_enterAbsent _ _ (nodup_absent hnames) habsent]

/-- A server that finished is put down with its own outcome. -/
theorem entry_tally_outcome {name : String} {outcome : SessionOutcome}
    (houtcome : (name, outcome) ∈ (c.setup config root).conduct run case) :
    ((c.setup config root).tally run case record buckets).2.entry name
      = ((⟨record, buckets⟩ : Tally).entry name).after record.picked outcome := by
  have hnodup := honce.nodup hnames root run case
  have hcontender : name ∈ (c.setup config root).contenders.map (·.server.name) :=
    (honce.perm config root run case).mem_iff.1 (List.mem_map.2 ⟨_, houtcome, rfl⟩)
  simp only [Setup.tally]
  rw [entry_enterAll _ _ _ hnodup, (entryOf?_eq_some_iff hnodup).2 houtcome,
    entry_enterAbsent_of_notMem _ _ _ (notMem_absent hnames hcontender), picked_enterAbsent]

omit hnames in
/-- A server that is there finishes. -/
theorem exists_outcome {server : Server} (hserver : server ∈ config.servers)
    (hresolve : (c.resolve server.command).isSome = true) :
    ∃ outcome, (server.name, outcome) ∈ (c.setup config root).conduct run case := by
  have hcontender : server.name ∈ (c.setup config root).contenders.map (·.server.name) :=
    mem_contenders.2 ⟨server, hserver, hresolve, rfl⟩
  obtain ⟨⟨_, outcome⟩, houtcome, rfl⟩ :=
    List.mem_map.1 ((honce.perm config root run case).mem_iff.2 hcontender)
  exact ⟨outcome, houtcome⟩

include hreal in
/-- Each server gets one entry in a run. -/
theorem next_tally {name : String} (hmem : name ∈ config.serverNames) :
    Next record.picked ((⟨record, buckets⟩ : Tally).entry name)
      (((c.setup config root).tally run case record buckets).2.entry name) := by
  obtain ⟨server, hserver, rfl⟩ := List.mem_map.1 hmem
  cases hresolve : c.resolve server.command with
  | none =>
      have habsent : server ∈ (c.setup config root).absent :=
        mem_absent.2 ⟨hserver, by rw [hresolve]; rfl⟩
      rw [entry_tally_absent root honce hnames run case record buckets habsent]
      exact .missing _
  | some program =>
      obtain ⟨outcome, houtcome⟩ :=
        exists_outcome root honce run case hserver (by rw [hresolve]; rfl)
      rw [entry_tally_outcome root honce hnames run case record buckets houtcome]
      exact .after (hreal root _ run case _ houtcome)

omit hnames in
/-- Nothing is put down for anybody else. -/
theorem entry_tally_of_notMem {name : String} (hnot : name ∉ config.serverNames) :
    ((c.setup config root).tally run case record buckets).2.entry name
      = (⟨record, buckets⟩ : Tally).entry name := by
  have hperm := honce.perm config root run case
  have habsent : name ∉ (c.setup config root).absent.map (·.name) := fun hmem =>
    hnot ((List.filter_sublist.map _).subset hmem)
  have hfinished : name ∉ ((c.setup config root).conduct run case).map Prod.fst := fun hmem =>
    hnot ((sublist_contenders c config root).subset (hperm.mem_iff.1 hmem))
  simp only [Setup.tally]
  rw [entry_enterAll_of_notMem _ _ _ hfinished, entry_enterAbsent_of_notMem _ _ _ habsent]

end Step

/-! ### All runs -/

/-- The results of one server, in the order of the runs. -/
def resultsOf (name : String) (cases : List CaseRecord) : List ServerCaseResult :=
  cases.filterMap (·.results.get? name)

/-- Each server has a result in every record, and its bucket is the recount of them. -/
structure Progress.Recounted (config : Config) (p : Progress) : Prop where
  results : ∀ record ∈ p.cases, ∀ name,
    (record.results.get? name).isSome = true ↔ name ∈ config.serverNames
  coherent : ∀ record ∈ p.cases, ∀ name r, record.results.get? name = some r → r.Coherent
  buckets : ∀ name, (p.buckets.get? name).isSome = true ↔ name ∈ config.serverNames
  counts : ∀ name b, p.buckets.get? name = some b → b.Counts (resultsOf name p.cases)

theorem Next.counts {picked : PickedCase} {e e' : Tally.Entry} (hnext : Next picked e e') :
    ∃ r b, e'.result = some r ∧ e'.bucket = some b ∧ r.Coherent ∧
      ∀ rs, (e.bucket.getD .empty).Counts rs → b.Counts (rs ++ [r]) := by
  cases hnext with
  | missing message =>
      exact ⟨_, _, rfl, rfl, ServerCaseResult.coherent_failed message,
        fun rs hcounts => hcounts.recordFailure message⟩
  | @after outcome hreal =>
      exact ⟨_, _, rfl, rfl, hreal.coherent, fun rs hcounts => hcounts.count outcome⟩

theorem results_new {run : Nat} {case : Case} {record : CaseRecord}
    (h : CaseRecord.new run case = .ok record) (name : String) : record.results.get? name = none := by
  unfold CaseRecord.new at h
  cases hpicked : PickedCase.ofCase case with
  | error cause =>
      rw [hpicked] at h
      cases h
  | ok picked =>
      rw [hpicked] at h
      cases h
      rfl

namespace Progress.Recounted

variable {c : Circumstances} {config : Config}

theorem opening (hnames : config.serverNames.Nodup) (picker : Picker) :
    Recounted config (.opening config picker) := by
  have hget : ∀ name, (emptyBuckets config).get? name
      = if name ∈ config.serverNames then some .empty else none := by
    intro name
    have hfst : (config.serverNames.map fun n => (n, Bucket.empty)).map Prod.fst
        = config.serverNames := by simp [Function.comp_def]
    rw [emptyBuckets, Table.get?_ofList (by rw [hfst]; exact hnames)]
    split
    next hmem =>
      rw [entryOf?_eq_some_iff (by rw [hfst]; exact hnames)]
      exact List.mem_map.2 ⟨name, hmem, rfl⟩
    next hnot =>
      rw [entryOf?_eq_none_iff, hfst]
      exact hnot
  constructor
  · intro record hmem
    cases hmem
  · intro record hmem
    cases hmem
  · intro name
    simp only [Progress.opening, hget]
    split <;> simp_all
  · intro name b hb
    simp only [Progress.opening, hget] at hb
    split at hb
    · cases hb
      exact .empty
    · cases hb

/-- A run keeps it so. -/
theorem tally {p : Progress} (h : p.Recounted config) (root : Path) (honce : c.EachOnce)
    (hreal : c.AllReal) (hnames : config.serverNames.Nodup) (picker : Picker) {run : Nat}
    {case : Case} {record : CaseRecord} (hrecord : CaseRecord.new run case = .ok record) :
    Recounted config
      { picker
        buckets := ((c.setup config root).tally run case record p.buckets).2.buckets
        cases := p.cases ++ [((c.setup config root).tally run case record p.buckets).2.record] } := by
  set t := ((c.setup config root).tally run case record p.buckets).2 with ht
  have hnext : ∀ name ∈ config.serverNames, ∃ r b, t.record.results.get? name = some r ∧
      t.buckets.get? name = some b ∧ r.Coherent ∧
      ∀ rs, ((p.buckets.get? name).getD .empty).Counts rs → b.Counts (rs ++ [r]) :=
    fun name hmem => (next_tally root honce hreal hnames run case record p.buckets hmem).counts
  have hother : ∀ name ∉ config.serverNames,
      t.record.results.get? name = none ∧ t.buckets.get? name = p.buckets.get? name := by
    intro name hnot
    have hentry := entry_tally_of_notMem root honce run case record p.buckets hnot
    refine ⟨(congrArg Tally.Entry.result hentry).trans (results_new hrecord name), ?_⟩
    exact congrArg Tally.Entry.bucket hentry
  have hsome : ∀ name, (t.record.results.get? name).isSome = true ↔ name ∈ config.serverNames := by
    intro name
    by_cases hmem : name ∈ config.serverNames
    · obtain ⟨r, b, hr, -⟩ := hnext name hmem
      simp [hr, hmem]
    · simp [(hother name hmem).1, hmem]
  constructor
  · intro record' hmem
    rcases List.mem_append.1 hmem with hmem | hmem
    · exact h.results record' hmem
    · obtain rfl := List.mem_singleton.1 hmem
      exact hsome
  · intro record' hmem name r hr
    rcases List.mem_append.1 hmem with hmem | hmem
    · exact h.coherent record' hmem name r hr
    · obtain rfl := List.mem_singleton.1 hmem
      obtain ⟨r', b, hr', -, hcoherent, -⟩ := hnext name ((hsome name).1 (by rw [hr]; rfl))
      obtain rfl := Option.some.inj (hr.symm.trans hr')
      exact hcoherent
  · intro name
    by_cases hmem : name ∈ config.serverNames
    · obtain ⟨r, b, -, hb, -⟩ := hnext name hmem
      simp [hb, hmem]
    · rw [(hother name hmem).2]
      exact h.buckets name
  · intro name b hb
    have hmem : name ∈ config.serverNames := by
      by_contra hnot
      rw [(hother name hnot).2] at hb
      exact hnot ((h.buckets name).1 (by rw [hb]; rfl))
    obtain ⟨r, b', hr, hb', -, hcounts⟩ := hnext name hmem
    obtain rfl := Option.some.inj (hb.symm.trans hb')
    obtain ⟨before, hbefore⟩ := Option.isSome_iff_exists.1 ((h.buckets name).2 hmem)
    rw [hbefore] at hcounts
    have hlast := hcounts _ (h.counts name before hbefore)
    simpa [resultsOf, List.filterMap_append, hr] using hlast

theorem runs (root : Path) (honce : c.EachOnce) (hreal : c.AllReal)
    (hnames : config.serverNames.Nodup) : ∀ {left run : Nat} {p p' : Progress},
    p.Recounted config → ((c.setup config root).runs left run p).result = .ok p' →
      p'.Recounted config ∧ p'.cases.length = p.cases.length + left := by
  intro left
  induction left with
  | zero =>
      intro run p p' h heq
      cases heq
      exact ⟨h, rfl⟩
  | succ left ih =>
      intro run p p' h heq
      simp only [Setup.runs] at heq
      split at heq
      · cases heq
      next case picker hpick =>
        split at heq
        · cases heq
        next record hrecord =>
          obtain ⟨hrecounted, hlength⟩ :=
            ih (h.tally root honce hreal hnames picker hrecord) heq
          refine ⟨hrecounted, ?_⟩
          rw [hlength, List.length_append, List.length_singleton]
          omega

end Progress.Recounted

/-! ### The report -/

/-- A summary over so many runs is the recount of the results `rs` of its server. -/
structure Recounts (s : ServerSummary) (runs : Nat) (rs : List ServerCaseResult) : Prop where
  length : rs.length = runs
  ok : s.ok = rs.countP (·.ok)
  errors : s.errors = rs.countP (!·.ok)
  found : s.found = rs.countP (·.found)
  valid : s.valid = rs.countP (·.anyValid)
  /-- The latencies are those of the answered lookups, and each of these has one. -/
  latency : s.latency = .ofSamples ((rs.filter (·.ok)).filterMap (·.latency))
  samples : s.latency.count = s.ok
  total : s.ok + s.errors = runs
  timeouts : s.timeouts ≤ s.errors
  order : s.valid ≤ s.found ∧ s.found ≤ s.ok ∧ s.ok ≤ runs
  percents : s.okPercent = percent s.ok runs ∧ s.foundPercent = percent s.found runs ∧
    s.validPercent = percent s.valid runs
  /-- Each percentage is the number nearest to the exact one, and the bound on it does nothing. -/
  unbounded : ∀ count ∈ [s.ok, s.found, s.valid], 25 * runs ≤ 2 ^ 53 →
    percent count runs = share count runs ∧ share count runs = .ofRatio false (100 * count) runs
  /-- With more runs than that, a hundred times the runs may be rounded up. The bound does nothing
  but take this off again, where all runs are counted. -/
  bounded : ∀ count ∈ [s.ok, s.found, s.valid], runs < 2 ^ 64 →
    percent count runs = share count runs ∨
      Binary64.ofNat count = .ofNat runs ∧ percent count runs = .ofNat 100

theorem recounts_summarize {b : Bucket} {runs : Nat} {rs : List ServerCaseResult}
    (hruns : runs ≠ 0) (hlength : rs.length = runs) (hcounts : b.Counts rs)
    (hcoherent : ∀ r ∈ rs, r.Coherent) : Recounts (b.summarize runs) runs rs := by
  have htotal : b.ok + b.errors = runs := hcounts.ok_add_errors.trans hlength
  have hvalid := hcounts.valid_le_found hcoherent
  have hfound := hcounts.found_le_ok hcoherent
  have hle : ∀ count ∈ [(b.summarize runs).ok, (b.summarize runs).found, (b.summarize runs).valid],
      count ≤ runs := by
    simp only [Bucket.summarize, List.forall_mem_cons, List.not_mem_nil, false_implies,
      implies_true, and_true]
    omega
  refine
    { length := hlength
      ok := hcounts.ok
      errors := hcounts.errors
      found := hcounts.found
      valid := hcounts.valid
      latency := congrArg LatencyStats.ofSamples hcounts.latencies_eq
      samples := ?_
      total := htotal
      timeouts := hcounts.timeouts
      order := ⟨hvalid, hfound, by simp only [Bucket.summarize]; omega⟩
      percents := ⟨rfl, rfl, rfl⟩
      unbounded := ?_
      bounded := ?_ }
  · exact (LatencyStats.count_ofSamples _).trans (hcounts.length_latencies hcoherent)
  · intro count hcount hsmall
    exact ⟨percent_eq_share hruns (hle count hcount) hsmall,
      share_eq_ofRatio hruns (hle count hcount) hsmall⟩
  · intro count hcount hsize
    exact percent_eq_share_or hruns (hle count hcount) hsize

theorem length_resultsOf {config : Config} {p : Progress} (h : p.Recounted config) {name : String}
    (hmem : name ∈ config.serverNames) : (resultsOf name p.cases).length = p.cases.length := by
  rw [resultsOf, List.length_filterMap_eq_countP, List.countP_eq_length]
  exact fun record hrecord => (h.results record hrecord name).2 hmem

section Report

variable {c : Circumstances} {config : Config} {report : Report} {files : Files}
  (honce : c.EachOnce) (hreal : c.AllReal) (h : (run c config).result = .ok (report, files))

include honce hreal h

/-- A report is made of runs that the buckets recount, as many as the configuration says. -/
theorem recounted_of_result_run : ∃ root p, config.runs ≠ 0 ∧
    report = reportOf root (config.seed.getD c.seed) c.time config p ∧ p.Recounted config ∧
      p.cases.length = config.runs := by
  obtain ⟨root, picker, p, hcheck, hruns, rfl⟩ := of_result_run h
  have hnames := Config.nodup_serverNames hcheck
  obtain ⟨hrecounted, hlength⟩ := Progress.Recounted.runs root honce hreal hnames
    (Progress.Recounted.opening hnames picker) hruns
  exact ⟨root, p, (Config.check_eq_ok hcheck).1, rfl, hrecounted, hlength.trans (Nat.zero_add _)⟩

theorem length_cases : report.cases.length = config.runs := by
  obtain ⟨root, p, -, rfl, -, hlength⟩ := recounted_of_result_run honce hreal h
  exact hlength

theorem mem_names_summary (name : String) :
    name ∈ report.summary.names ↔ name ∈ config.serverNames := by
  obtain ⟨root, p, -, rfl, hrecounted, -⟩ := recounted_of_result_run honce hreal h
  simp only [reportOf, Table.names_map, Table.mem_names_iff]
  exact hrecounted.buckets name

theorem exists_recounts {name : String} (hmem : name ∈ config.serverNames) :
    ∃ s, report.summary.get? name = some s ∧
      Recounts s config.runs (resultsOf name report.cases) := by
  obtain ⟨root, p, hruns, rfl, hrecounted, hlength⟩ := recounted_of_result_run honce hreal h
  obtain ⟨b, hb⟩ := Option.isSome_iff_exists.1 ((hrecounted.buckets name).2 hmem)
  refine ⟨b.summarize config.runs, by simp [reportOf, hb], ?_⟩
  refine recounts_summarize hruns ((length_resultsOf hrecounted hmem).trans hlength)
    (hrecounted.counts name b hb) fun r hr => ?_
  obtain ⟨record, hrecord, hget⟩ := List.mem_filterMap.1 hr
  exact hrecounted.coherent record hrecord name r hget

end Report

/-- In a report, the summary of each server is the recount of its results in the records. -/
theorem summary_recounts {c : Circumstances} {config : Config} {report : Report} {files : Files}
    (honce : c.EachOnce) (hreal : c.AllReal) (h : (run c config).result = .ok (report, files)) :
    (∀ name, name ∈ report.summary.names ↔ name ∈ config.serverNames) ∧
      report.cases.length = config.runs ∧
      ∀ name ∈ config.serverNames, ∃ s, report.summary.get? name = some s ∧
        Recounts s config.runs (resultsOf name report.cases) :=
  ⟨mem_names_summary honce hreal h, length_cases honce hreal h,
    fun _ hmem => exists_recounts honce hreal h hmem⟩

theorem summary_recounts_small : ∃ report files,
    (run small smallConfig).result = .ok (report, files) ∧
      (∀ name, name ∈ report.summary.names ↔ name ∈ smallConfig.serverNames) ∧
      report.cases.length = 1 ∧
      ∀ name ∈ smallConfig.serverNames, ∃ s, report.summary.get? name = some s ∧
        Recounts s 1 (resultsOf name report.cases) := by
  obtain ⟨report, files, hresult⟩ := exists_report_small
  exact ⟨report, files, hresult, summary_recounts eachOnce_small allReal_small hresult⟩

/-! ### Where the bound acts -/

/-- The one source of the small benchmark. -/
def smallSource : Path := Path.ofString "/m.py"

theorem occurrencesIn_smallSource :
    small.files.occurrencesIn smallSource = [⟨1, 0, "x", .name⟩] := by
  decide +kernel

/-- Each draw from the small benchmark is a case. -/
theorem exists_pick_small {p : Picker} (hsources : p.sources = [smallSource])
    (htries : p.maxTries ≠ 0) :
    ∃ case g, p.pick small.files = (.ok case, { p with generator := g }) ∧
      case.position = ⟨0, 0⟩ := by
  have hfile : small.files.occurrencesIn smallSource ≠ [] := by
    rw [occurrencesIn_smallSource]
    exact List.cons_ne_nil _ _
  obtain ⟨file, g, hchoose⟩ :=
    Random.Generator.exists_choose (List.cons_ne_nil smallSource []) p.generator
  obtain rfl := List.mem_singleton.1 (Random.Generator.mem_of_choose hchoose)
  obtain ⟨case, g', hcase, hdrawn⟩ := Case.exists_fromFile_of_ne_nil hfile g
  obtain ⟨tries, htries⟩ := Nat.exists_eq_succ_of_ne_zero htries
  obtain ⟨o, ho, hposition, -⟩ := hdrawn.exists_mem
  rw [occurrencesIn_smallSource] at ho
  obtain rfl := List.mem_singleton.1 ho
  refine ⟨case, g', ?_, hposition⟩
  rw [Picker.pick, hsources, htries, Picker.pickFrom, hchoose]
  dsimp only
  rw [hcase]

theorem exists_record {case : Case} (h : case.position = ⟨0, 0⟩) (run : Nat) :
    ∃ record, CaseRecord.new run case = .ok record := by
  rw [CaseRecord.new, PickedCase.ofCase, h]
  exact ⟨_, rfl⟩

/-- The small benchmark with any number of runs. -/
def repeated (runs : Nat) : Config := { smallConfig with runs }

theorem nodup_repeated (runs : Nat) : (repeated runs).serverNames.Nodup :=
  show smallConfig.serverNames.Nodup by decide

/-- The first server of the small benchmark has an answer in every run. -/
theorem exists_runs_repeated (n : Nat) (root : Path) :
    ∀ (left run : Nat) {p : Progress} {b : Bucket}, p.picker.sources = [smallSource] →
      p.picker.maxTries ≠ 0 → p.buckets.get? "a" = some b →
      ∃ p' b', ((small.setup (repeated n) root).runs left run p).result = .ok p' ∧
        p'.buckets.get? "a" = some b' ∧ b'.ok = b.ok + left := by
  intro left
  induction left with
  | zero => exact fun run p b _ _ hb => ⟨p, b, rfl, hb, rfl⟩
  | succ left ih =>
      intro run p b hsources htries hb
      obtain ⟨case, g, hpick, hposition⟩ := exists_pick_small hsources htries
      obtain ⟨record, hrecord⟩ := exists_record hposition run
      have hanswer : ("a", .completed (.success [] (.ofNat 1)))
          ∈ (small.setup (repeated n) root).conduct run case := List.mem_cons_self
      have hentry := congrArg Tally.Entry.bucket (entry_tally_outcome root eachOnce_small
        (nodup_repeated n) run case record p.buckets hanswer)
      simp only [Tally.Entry.after, Tally.entry, hb, Option.getD_some] at hentry
      obtain ⟨p', b', hruns, hb', hok⟩ := ih (run + 1)
        (p := ⟨{ p.picker with generator := g }, _, p.cases ++ [_]⟩) hsources htries hentry
      refine ⟨p', b', ?_, hb', ?_⟩
      · rw [Setup.runs]
        simp only [Circumstances.setup] at hruns ⊢
        rw [hpick]
        dsimp only
        rw [hrecord]
        exact hruns
      · have hcount : ((SessionOutcome.completed (.success [] (.ofNat 1))).count b).ok
            = b.ok + 1 := rfl
        rw [hok, hcount]
        omega

/-- So many runs that a hundred times their number is rounded up. -/
def crowd : Nat := 360287970189643

theorem prepare_crowd :
    ∃ root picker, prepare small.files 1 (repeated crowd) = .ok (root, picker) ∧
      picker.sources = [smallSource] ∧ picker.maxTries ≠ 0 := by
  have hready : ((prepare small.files 1 (repeated crowd)).toOption.map fun ready =>
      (ready.2.sources, ready.2.maxTries)) = some ([smallSource], 50) := by
    decide +kernel
  cases hprepare : prepare small.files 1 (repeated crowd) with
  | error failure =>
      rw [hprepare] at hready
      cases hready
  | ok ready =>
      rw [hprepare] at hready
      obtain ⟨hsources, htries⟩ := Prod.mk.inj (Option.some.inj hready)
      refine ⟨ready.1, ready.2, rfl, hsources, ?_⟩
      rw [htries]
      decide

/-- In a report over so many answers the bound takes something off their share. -/
theorem bound_acts_crowd : ∃ report files s,
    (run small (repeated crowd)).result = .ok (report, files) ∧
      report.summary.get? "a" = some s ∧ s.ok = crowd ∧ s.okPercent ≠ share s.ok crowd := by
  obtain ⟨root, picker, hprepare, hsources, htries⟩ := prepare_crowd
  obtain ⟨p, b, hruns, hb, hok⟩ := exists_runs_repeated crowd root crowd 0
    (p := .opening (repeated crowd) picker) (b := .empty) hsources htries rfl
  have hall : b.ok = crowd := hok.trans (Nat.zero_add _)
  have hacts : percent crowd crowd ≠ share crowd crowd := by decide +kernel
  refine ⟨_, _, b.summarize crowd, result_run_of_parts hprepare hruns rfl, ?_, hall, ?_⟩
  · simp only [reportOf, Table.get?_map, hb]
    rfl
  · simp only [Bucket.summarize, hall]
    exact hacts

end LookupBench.Benchmark
