import LookupBench.Proofs.Benchmark.Records
import LookupBench.Proofs.Sampling.Picker

/-!
# What the cases depend on

Cases are drawn in between the sessions of the runs, but nothing that a session does reaches the
generator: the cases of a benchmark are those that its picker gives when nothing is in between. So
they follow from the seed and from the tree at the root, and from how many are drawn.
-/

namespace LookupBench

/-- The cases that events show, in order. -/
def Console.casesOf (events : List Console.Event) : List Case :=
  events.filterMap fun
    | .picked _ _ case _ => some case
    | _ => none

namespace Benchmark

open Console

/-! ### Drawing with nothing in between -/

/-- So many cases in a row, and the picker behind them; or those up to the first that cannot be
picked or put down, and why. -/
def draw (files : Files) : Nat → Picker → List Case × Except BenchmarkFailure Picker
  | 0, p => ([], .ok p)
  | left + 1, p =>
    match p.pick files with
    | (.error cause, _) => ([], .error (.sampling cause))
    | (.ok case, p) =>
      match PickedCase.ofCase case with
      | .error cause => ([case], .error (.overflow cause))
      | .ok _ => (case :: (draw files left p).1, (draw files left p).2)

theorem draw_succ {files : Files} {p picker : Picker} {case : Case} {picked : PickedCase}
    (hpick : p.pick files = (.ok case, picker)) (hpicked : PickedCase.ofCase case = .ok picked)
    (left : Nat) : draw files (left + 1) p
      = (case :: (draw files left picker).1, (draw files left picker).2) := by
  rw [draw, hpick]
  simp only [hpicked]

/-- Cases as they are reported. -/
def reported (cases : List Case) : List PickedCase :=
  cases.filterMap fun case => (PickedCase.ofCase case).toOption

theorem draw_congr {files files' : Files} {p : Picker}
    (h : ∀ q ∈ p.sources, files.status q = files'.status q) (left : Nat) :
    draw files left p = draw files' left p := by
  induction left generalizing p with
  | zero => rfl
  | succ left ih =>
      have hpick := Picker.pick_congr h
      rw [draw, draw, ← hpick]
      split
      next => rfl
      next case p' hpicked =>
        -- the picker goes on with the same sources
        have hsources : p'.sources = p.sources := by
          rw [← Picker.sources_pick p files, hpicked]
        rw [ih (hsources ▸ h)]

/-- Who draws more draws the same first. -/
theorem prefix_draw (files : Files) {left more : Nat} (h : left ≤ more) (p : Picker) :
    (draw files left p).1 <+: (draw files more p).1 := by
  induction left generalizing more p with
  | zero => exact List.nil_prefix
  | succ left ih =>
      obtain ⟨more, rfl⟩ := Nat.exists_eq_succ_of_ne_zero (Nat.ne_zero_of_lt h)
      rw [draw, draw]
      split
      next => exact List.prefix_refl _
      next case p' _ =>
        split
        next => exact List.prefix_refl _
        next => exact (List.prefix_cons_inj case).2 (ih (Nat.le_of_succ_le_succ h) p')

/-! ### Drawing between sessions -/

theorem casesOf_append (events events' : List Console.Event) :
    casesOf (events ++ events') = casesOf events ++ casesOf events' := List.filterMap_append

/-- What a run shows besides its case shows no case. -/
theorem casesOf_tally (setup : Setup) (run : Nat) (case : Case) (record : CaseRecord)
    (buckets : Table Bucket) : casesOf (setup.tally run case record buckets).1 = [] := by
  rw [Setup.tally]
  simp only [casesOf_append, events_enterAbsent, events_enterAll]
  simp [casesOf, List.filterMap_map]

theorem casesOf_picked {events : List Console.Event} (h : casesOf events = []) (run runs : Nat)
    (case : Case) (servers : List String) (more : List Console.Event) :
    casesOf (.picked run runs case servers :: events ++ .runFinished run :: more)
      = case :: casesOf more := by
  rw [List.cons_append]
  exact congrArg (case :: ·) ((casesOf_append _ _).trans (by rw [h]; rfl))

/-- The cases that runs show, and the picker behind them, are those of a picker that is left
alone. -/
theorem draw_of_runs (setup : Setup) (left run : Nat) (p : Progress) :
    casesOf (setup.runs left run p).events = (draw setup.files left p.picker).1 ∧
      (setup.runs left run p).result.map (·.picker) = (draw setup.files left p.picker).2 := by
  induction left generalizing run p with
  | zero => exact ⟨rfl, rfl⟩
  | succ left ih =>
      rw [Setup.runs]
      cases hpick : p.picker.pick setup.files with
      | mk outcome picker =>
          cases outcome with
          | error cause =>
              rw [draw, hpick]
              exact ⟨rfl, rfl⟩
          | ok case =>
              cases hpicked : PickedCase.ofCase case with
              | error cause =>
                  rw [draw, hpick]
                  simp only [CaseRecord.new, hpicked]
                  exact ⟨rfl, rfl⟩
              | ok picked =>
                  rw [draw_succ hpick hpicked]
                  simp only [CaseRecord.new, hpicked]
                  -- whatever the tally of this run is, it goes along with the same picker
                  refine ⟨?_, (ih (run + 1) _).2⟩
                  have hsilent := casesOf_tally setup run case ⟨run, picked, .empty, .empty⟩ p.buckets
                  exact (casesOf_picked hsilent run _ case _ _).trans
                    (congrArg (case :: ·) (ih (run + 1) _).1)

/-- Nothing but a case that cannot be drawn keeps runs from their end. -/
theorem exists_end_of_draw (setup : Setup) {left : Nat} (run : Nat) (p : Progress) {picker : Picker}
    (h : (draw setup.files left p.picker).2 = .ok picker) :
    ∃ p', (setup.runs left run p).result = .ok p' := by
  have hdrawn := (draw_of_runs setup left run p).2
  rw [h] at hdrawn
  cases hend : (setup.runs left run p).result with
  | error failure =>
      rw [hend] at hdrawn
      cases hdrawn
  | ok p' => exact ⟨p', rfl⟩

/-- What stands in the records is what was drawn. -/
theorem reported_of_runs {setup : Setup} {left run : Nat} {p p' : Progress}
    (h : (setup.runs left run p).result = .ok p') :
    p'.cases.map (·.picked)
      = p.cases.map (·.picked) ++ reported (draw setup.files left p.picker).1 := by
  induction left generalizing run p with
  | zero =>
      cases h
      simp [draw, reported]
  | succ left ih =>
      simp only [Setup.runs] at h
      split at h
      next => cases h
      next case picker hpick =>
        split at h
        next => cases h
        next record hrecord =>
          obtain ⟨hpicked, -⟩ := eq_of_new hrecord
          have hkept : (setup.tally run case record p.buckets).2.record.picked = record.picked := by
            simp only [Setup.tally, picked_enterAll, picked_enterAbsent]
          have hfirst : ∀ cases : List Case,
              reported (case :: cases) = record.picked :: reported cases := fun cases => by
            simp [reported, hpicked, Except.toOption]
          rw [ih h, draw_succ hpick hpicked, hfirst, List.map_append, List.append_assoc,
            List.map_singleton, hkept]
          rfl

/-! ### Getting ready -/

/-- A configuration that passed its check gets ready at a directory, unless there is no source. -/
theorem prepare_of_check {files : Files} {config : Config} (h : config.check files = .ok ()) :
    ∃ names entries, files.status config.root = .ok (names, .directory entries) ∧
      ∀ seed, prepare files seed config
        = ((Picker.new files (Path.ofNames names) seed).mapError .sampling).map
            fun picker => (Path.ofNames names, picker) := by
  have hdirectory := Config.isDirectory_of_check h
  unfold Files.isDirectory at hdirectory
  cases hstatus : files.status config.root with
  | error e => simp [hstatus] at hdirectory
  | ok place =>
      obtain ⟨names, node⟩ := place
      cases node with
      | file | link => simp [hstatus, Node.isDirectory] at hdirectory
      | directory entries =>
          refine ⟨names, entries, rfl, fun seed => ?_⟩
          rw [prepare, h, Files.canonical, hstatus]
          cases hpicker : Picker.new files (Path.ofNames names) seed <;>
            simp [bind, Except.bind, Except.map, Except.mapError, pure, Except.pure, hpicker]

/-- Where the same tree stands, benchmarks with the same seed get ready alike, and draw alike. -/
theorem prepare_same {files files' : Files} {config config' : Config} {seed : UInt64} {root : Path}
    {picker : Picker} (hsame : Files.SameTree files config.root files' config'.root)
    (hcheck : config'.check files' = .ok ()) (h : prepare files seed config = .ok (root, picker)) :
    prepare files' seed config' = .ok (root, picker) ∧
      ∀ left, draw files left picker = draw files' left picker := by
  obtain ⟨names, entries, hstatus, hready⟩ := prepare_of_check (check_of_prepare h)
  obtain ⟨names', entries', hstatus', hready'⟩ := prepare_of_check hcheck
  obtain ⟨rfl, rfl⟩ : names = names' ∧ entries = entries' := by
    simpa [hsame.status, hstatus'] using hstatus.symm
  have hagree := hsame.agree hstatus
  rw [hready] at h
  cases hnew : Picker.new files (Path.ofNames names) seed with
  | error cause =>
      rw [hnew] at h
      cases h
  | ok picker' =>
      rw [hnew] at h
      cases h
      refine ⟨?_, fun left => draw_congr ?_ left⟩
      · rw [hready', ← Picker.new_congr hagree.sources, hnew]
        rfl
      · rw [Picker.sources_of_new hnew]
        exact hagree.status

/-! ### Whole benchmarks -/

section Whole

variable {c : Circumstances} {config : Config}

/-- What is shown before the first run shows no case. -/
theorem casesOf_events_run {root : Path} {picker : Picker}
    (h : prepare c.files (config.seed.getD c.seed) config = .ok (root, picker)) :
    casesOf (run c config).events = (draw c.files config.runs picker).1 := by
  have hmissing : casesOf ((c.setup config root).absent.map fun server =>
      Console.Event.unavailable server.name server.command) = [] := by
    simp [casesOf, List.filterMap_map]
  rw [events_run h, casesOf_append, hmissing, List.nil_append]
  exact (draw_of_runs _ _ _ _).1

theorem picked_of_result_run {report : Report} {files : Files}
    (h : (run c config).result = .ok (report, files)) :
    ∃ root picker p, prepare c.files (config.seed.getD c.seed) config = .ok (root, picker) ∧
      (draw c.files config.runs picker).2 = .ok p ∧
      report.cases.map (·.picked) = reported (draw c.files config.runs picker).1 ∧
      report.seed = (config.seed.getD c.seed).toNat := by
  obtain ⟨root, picker, p, hprepare, hruns, rfl⟩ := parts_of_result_run h
  refine ⟨root, picker, p.picker, hprepare, ?_, reported_of_runs hruns, rfl⟩
  have hdrawn := (draw_of_runs (c.setup config root) config.runs 0 (.opening config picker)).2
  rw [hruns] at hdrawn
  exact hdrawn.symm

end Whole

/-- Cases depend on the seed, on the tree at the root, and on how many are drawn. The files beside
that tree, the servers, which of them are there, what comes of them and in which order, how long they
are waited for and what they are told: all else may be different. -/
structure Seeded : Prop where
  /-- The longer of two benchmarks shows the cases of the shorter one first, whether or not they come
  to a report. -/
  shown : ∀ (c c' : Circumstances) (config config' : Config),
    Files.SameTree c.files config.root c'.files config'.root →
      config.seed.getD c.seed = config'.seed.getD c'.seed → config.runs ≤ config'.runs →
        config'.check c'.files = .ok () →
          casesOf (run c config).events <+: casesOf (run c' config').events
  /-- The longer of two reports has the cases of the shorter one first. -/
  report : ∀ (c c' : Circumstances) (config config' : Config) (report report' : Report)
    (files files' : Files),
    Files.SameTree c.files config.root c'.files config'.root →
      config.seed.getD c.seed = config'.seed.getD c'.seed → config.runs ≤ config'.runs →
        (run c config).result = .ok (report, files) →
          (run c' config').result = .ok (report', files') →
            report.cases.map (·.picked) <+: report'.cases.map (·.picked)
  /-- A benchmark that is given the seed of a report has the cases of that report, and nothing but
  the place for its own report can be in its way. -/
  again : ∀ (c c' : Circumstances) (config config' : Config) (report : Report) (files : Files),
    (run c config).result = .ok (report, files) →
      Files.SameTree c.files config.root c'.files config'.root →
        config'.seed = some (.ofNat report.seed) → config'.runs = config.runs →
          config'.check c'.files = .ok () →
            ∃ report', report'.cases.map (·.picked) = report.cases.map (·.picked) ∧
              report'.seed = report.seed ∧
              (run c' config').result
                = (deliver c'.files config' report').map fun files' => (report', files')

theorem seeded : Seeded := by
  constructor
  · intro c c' config config' hsame hseed hruns hcheck
    cases hprepare : prepare c.files (config.seed.getD c.seed) config with
    | error failure =>
        have hnone : (run c config).events = [] := by
          rw [run]
          simp only [hprepare]
        rw [hnone]
        exact List.nil_prefix
    | ok ready =>
        obtain ⟨root, picker⟩ := ready
        obtain ⟨hprepare', hdraw⟩ := prepare_same hsame hcheck hprepare
        rw [hseed] at hprepare'
        rw [casesOf_events_run hprepare, casesOf_events_run hprepare', ← hdraw]
        exact prefix_draw c.files hruns picker
  · intro c c' config config' report report' files files' hsame hseed hruns hresult hresult'
    obtain ⟨root, picker, -, hprepare, -, hcases, -⟩ := picked_of_result_run hresult
    obtain ⟨root', picker', -, hprepare', -, hcases', -⟩ := picked_of_result_run hresult'
    obtain ⟨hready, hdraw⟩ := prepare_same hsame (check_of_prepare hprepare') hprepare
    rw [hseed, hprepare'] at hready
    cases hready
    rw [hcases, hcases', ← hdraw]
    exact (prefix_draw c.files hruns picker).filterMap _
  · intro c c' config config' report files hresult hsame hseed hruns hcheck
    obtain ⟨root, picker, p, hprepare, hdrawn, hcases, hreported⟩ := picked_of_result_run hresult
    obtain ⟨hready, hdraw⟩ := prepare_same hsame hcheck hprepare
    have heffective : config'.seed.getD c'.seed = config.seed.getD c.seed := by
      rw [hseed, hreported]
      simp
    -- the runs come to an end here as well, since each case is drawn as it was
    have hdrawn' : (draw c'.files config'.runs picker).2 = .ok p := by
      rw [← hdraw, hruns]
      exact hdrawn
    obtain ⟨p', hend⟩ :=
      exists_end_of_draw (c'.setup config' root) 0 (.opening config' picker) hdrawn'
    refine ⟨reportOf root (config.seed.getD c.seed) c'.time config' p', ?_, hreported.symm, ?_⟩
    · rw [hcases, hdraw, ← hruns]
      exact reported_of_runs hend
    · rw [result_run, heffective, hready]
      simp only [bind, Except.bind, hend]
      rfl

theorem tidy_small : small.files.root.Tidy := by
  refine .directory (by simp) ?_ ?_
  · simpa using (by constructor <;> decide +kernel : Path.IsName (Path.ofString "m.py"))
  · simpa using Node.Tidy.file _ _

/-- The same root under another name, and other settings. -/
def otherConfig : Config := { smallConfig with
  root := Path.ofString "."
  timeout := .ofNat 1
  withoutIndexing := ["a"] }

/-- No server is there, and the seed at hand is another one. -/
def deserted : Circumstances where
  files := small.files
  resolve _ := none
  conduct _ _ _ _ := []
  seed := 2
  time := .zero false

theorem sameTree_deserted :
    Files.SameTree small.files smallConfig.root deserted.files otherConfig.root := by
  have hroot : small.files.status smallConfig.root = .ok ([], small.files.root) := rfl
  have hother : deserted.files.status otherConfig.root = .ok ([], small.files.root) := rfl
  exact .tidy tidy_small tidy_small (hroot.trans hother.symm)

theorem seeded_deserted : ∃ report files report',
    (run small smallConfig).result = .ok (report, files) ∧
      (run deserted { otherConfig with seed := some (.ofNat report.seed) }).result
        = .ok (report', small.files) ∧
      report'.cases.map (·.picked) = report.cases.map (·.picked) ∧
      casesOf (run small smallConfig).events
        <+: casesOf (run deserted { otherConfig with seed := some 1, runs := 3 }).events := by
  have hcheck : otherConfig.check deserted.files = .ok () := by decide +kernel
  obtain ⟨report, files, hresult⟩ := exists_report_small
  obtain ⟨report', hcases, -, hrun⟩ := seeded.again small deserted smallConfig
    { otherConfig with seed := some (.ofNat report.seed) } report files hresult sameTree_deserted
    rfl rfl hcheck
  refine ⟨report, files, report', hresult, hrun, hcases, ?_⟩
  exact seeded.shown small deserted smallConfig { otherConfig with seed := some 1, runs := 3 }
    sameTree_deserted rfl (by decide) hcheck

end Benchmark

end LookupBench
