import LookupBench.Proofs.Benchmark.Circumstances
import LookupBench.Proofs.Config.Check

/-!
# The parts of a benchmark

A benchmark that gets ready has a configuration that passed its check. Then its runs go on one
after the other, and the report says what they left behind.
-/

namespace LookupBench.Benchmark

/-! ### Getting ready -/

theorem check_of_prepare {files : Files} {seed : UInt64} {config : Config} {root : Path}
    {picker : Picker} (h : prepare files seed config = .ok (root, picker)) :
    config.check files = .ok () := by
  unfold prepare at h
  cases hcheck : config.check files with
  | ok u => rfl
  | error fault =>
      rw [hcheck] at h
      cases h

/-! ### The runs -/

/-- What is the same in all runs of a benchmark at a root. -/
def Circumstances.setup (c : Circumstances) (config : Config) (root : Path) : Setup where
  files := c.files
  config := config
  absent := config.servers.filter fun server => (c.resolve server.command).isNone
  contenders := config.servers.filterMap (contender? c.resolve config)
  conduct := c.conduct root (config.servers.filterMap (contender? c.resolve config))

def Progress.opening (config : Config) (picker : Picker) : Progress where
  picker := picker
  buckets := emptyBuckets config
  cases := []

/-- What comes of a benchmark, without the events on the way. -/
theorem result_run (c : Circumstances) (config : Config) :
    (run c config).result = (do
      let (root, picker) ← prepare c.files (config.seed.getD c.seed) config
      let p ← ((c.setup config root).runs config.runs 0 (.opening config picker)).result
      let report := reportOf root (config.seed.getD c.seed) c.time config p
      return (report, ← deliver c.files config report)) := by
  unfold run
  dsimp only
  cases prepare c.files (config.seed.getD c.seed) config <;> rfl

/-- A report comes of a benchmark that got ready and of runs that all came to an end. -/
theorem parts_of_result_run {c : Circumstances} {config : Config} {report : Report} {files : Files}
    (h : (run c config).result = .ok (report, files)) :
    ∃ root picker p, prepare c.files (config.seed.getD c.seed) config = .ok (root, picker) ∧
      ((c.setup config root).runs config.runs 0 (.opening config picker)).result = .ok p ∧
      report = reportOf root (config.seed.getD c.seed) c.time config p := by
  rw [result_run] at h
  cases hprepare : prepare c.files (config.seed.getD c.seed) config with
  | error failure =>
      rw [hprepare] at h
      cases h
  | ok ready =>
      obtain ⟨root, picker⟩ := ready
      rw [hprepare] at h
      simp only [bind, Except.bind] at h
      cases hruns : ((c.setup config root).runs config.runs 0 (.opening config picker)).result with
      | error failure =>
          rw [hruns] at h
          cases h
      | ok p =>
          rw [hruns] at h
          simp only at h
          split at h
          · cases h
          · cases h
            exact ⟨root, picker, p, rfl, hruns, rfl⟩

theorem of_result_run {c : Circumstances} {config : Config} {report : Report} {files : Files}
    (h : (run c config).result = .ok (report, files)) :
    ∃ root picker p, config.check c.files = .ok () ∧
      ((c.setup config root).runs config.runs 0 (.opening config picker)).result = .ok p ∧
      report = reportOf root (config.seed.getD c.seed) c.time config p := by
  obtain ⟨root, picker, p, hprepare, hruns, hreport⟩ := parts_of_result_run h
  exact ⟨root, picker, p, check_of_prepare hprepare, hruns, hreport⟩

theorem nodup_of_result_run {c : Circumstances} {config : Config} {report : Report} {files : Files}
    (h : (run c config).result = .ok (report, files)) : config.serverNames.Nodup := by
  obtain ⟨-, -, -, hcheck, -, -⟩ := of_result_run h
  exact Config.nodup_serverNames hcheck

/-- Runs that come to an end behind a good start make a report. -/
theorem result_run_of_parts {c : Circumstances} {config : Config} {root : Path} {picker : Picker}
    {p : Progress}
    (hprepare : prepare c.files (config.seed.getD c.seed) config = .ok (root, picker))
    (hruns : ((c.setup config root).runs config.runs 0 (.opening config picker)).result = .ok p)
    (houtput : config.output = none) :
    (run c config).result
      = .ok (reportOf root (config.seed.getD c.seed) c.time config p, c.files) := by
  rw [result_run, hprepare]
  simp only [bind, Except.bind]
  rw [hruns]
  simp only [deliver, houtput]
  rfl

/-! ### Who takes part -/

theorem sublist_contenders (c : Circumstances) (config : Config) (root : Path) :
    ((c.setup config root).contenders.map (·.server.name)).Sublist config.serverNames := by
  have hname : ∀ server, (contender? c.resolve config server).map (·.server.name)
      = (c.resolve server.command).bind fun _ => some server.name := by
    intro server
    cases hresolve : c.resolve server.command <;> simp [contender?, hresolve]
  rw [Circumstances.setup, List.map_filterMap]
  simp only [hname]
  unfold Config.serverNames
  induction config.servers with
  | nil => exact .slnil
  | cons server rest ih =>
      cases hresolve : c.resolve server.command with
      | none =>
          rw [List.filterMap_cons_none (by simp [hresolve])]
          exact ih.cons _
      | some program =>
          rw [List.filterMap_cons_some (by simp [hresolve]; rfl)]
          exact ih.cons_cons _

section Parts

variable {c : Circumstances} {config : Config} {root : Path}

theorem mem_contenders {name : String} :
    name ∈ (c.setup config root).contenders.map (·.server.name)
      ↔ ∃ server ∈ config.servers, (c.resolve server.command).isSome = true ∧
          server.name = name := by
  simp only [Circumstances.setup, List.mem_map, List.mem_filterMap, contender?,
    Option.map_eq_some_iff]
  constructor
  · rintro ⟨_, ⟨server, hserver, program, hresolve, rfl⟩, rfl⟩
    exact ⟨server, hserver, by simp [hresolve], rfl⟩
  · rintro ⟨server, hserver, hsome, rfl⟩
    obtain ⟨program, hresolve⟩ := Option.isSome_iff_exists.1 hsome
    exact ⟨_, ⟨server, hserver, program, hresolve, rfl⟩, rfl⟩

theorem mem_absent {server : Server} :
    server ∈ (c.setup config root).absent
      ↔ server ∈ config.servers ∧ (c.resolve server.command).isNone = true :=
  List.mem_filter

theorem nodup_absent (hnames : config.serverNames.Nodup) :
    ((c.setup config root).absent.map (·.name)).Nodup :=
  hnames.sublist (List.filter_sublist.map _)

/-- A name belongs to a server that is there or to one that is not, never to both. -/
theorem notMem_absent (hnames : config.serverNames.Nodup) {name : String}
    (hmem : name ∈ (c.setup config root).contenders.map (·.server.name)) :
    name ∉ (c.setup config root).absent.map (·.name) := by
  intro habsent
  obtain ⟨server, hserver, hsome, rfl⟩ := mem_contenders.1 hmem
  obtain ⟨other, hother, hname⟩ := List.mem_map.1 habsent
  obtain ⟨hother, hnone⟩ := mem_absent.1 hother
  obtain rfl := List.inj_on_of_nodup_map hnames hother hserver hname
  rw [Option.isNone_iff_eq_none.1 hnone] at hsome
  cases hsome

/-- In each run the contenders finish, each of them once. -/
theorem Circumstances.EachOnce.perm (honce : c.EachOnce) (config : Config) (root : Path) (run : Nat)
    (case : Case) :
    (((c.setup config root).conduct run case).map Prod.fst).Perm
      ((c.setup config root).contenders.map (·.server.name)) :=
  honce root _ run case

theorem Circumstances.EachOnce.nodup (honce : c.EachOnce) (hnames : config.serverNames.Nodup)
    (root : Path)
    (run : Nat) (case : Case) :
    (((c.setup config root).conduct run case).map Prod.fst).Nodup :=
  (honce.perm config root run case).nodup_iff.2 (hnames.sublist (sublist_contenders c config root))

end Parts

end LookupBench.Benchmark
