import LookupBench.Proofs.Benchmark.Measured
import LookupBench.Proofs.Benchmark.Records
import LookupBench.Proofs.Files.Tree
import LookupBench.Proofs.Results.Conforms
import LookupBench.Proofs.Sampling.Case

/-!
# Reports survive

A report that fits into its words is read as it was, from its own text and under the path it was
written to. Reports that were read fit, and so do those that come of benchmarks: the cases are drawn
from files, the results are measured, and the summaries are made of both.
-/

namespace LookupBench

/-! ### Cases -/

theorem Picker.exists_of_pickFrom {files : Files} {sources : List Path} {limit tries : Nat}
    {last : Option SamplingFailure} {g : Random.Generator} {case : Case}
    (h : (pickFrom files sources limit tries last g).1 = .ok case) :
    ∃ file g', (Case.fromFile files file g').1 = .ok case := by
  induction tries generalizing last g with
  | zero => cases h
  | succ tries ih =>
      rw [pickFrom] at h
      split at h
      next => cases h
      next file g' _ =>
        split at h
        next case' g'' hfile =>
          cases h
          exact ⟨file, g', by rw [hfile]⟩
        next => exact ih h

/-- No case that was drawn lies in front of its file or of its line. -/
theorem Picker.nonneg_of_pick {p : Picker} {files : Files} {case : Case}
    (h : (p.pick files).1 = .ok case) : 0 ≤ case.position.line ∧ 0 ≤ case.position.character := by
  obtain ⟨file, g, hfile⟩ := exists_of_pickFrom h
  obtain ⟨content, -, o, hmem, rfl⟩ := Case.exists_of_fromFile hfile
  have hstands := Case.ofOccurrence_preferred files file hmem
  exact ⟨hstands.line_nonneg, hstands.character_nonneg⟩

theorem isInt64_of_oneMore {i j : Int} (h : oneMore i = .ok j) (hi : 0 ≤ i) :
    Json.isInt64 i = true ∧ Json.isInt64 j = true := by
  unfold oneMore at h
  split at h
  next hless =>
    cases h
    simp only [Location.highest] at hless
    rw [Json.isInt64_iff, Json.isInt64_iff]
    omega
  next => cases h

theorem PickedCase.fits_of_ofCase {case : Case} {picked : PickedCase}
    (h : ofCase case = .ok picked)
    (hcase : 0 ≤ case.position.line ∧ 0 ≤ case.position.character) : picked.Fits := by
  unfold ofCase at h
  simp only [bind, Except.bind, pure, Except.pure] at h
  split at h
  next => cases h
  next line hline =>
    split at h
    next => cases h
    next character hcharacter =>
      cases h
      have hlines := isInt64_of_oneMore hline hcase.1
      have hcharacters := isInt64_of_oneMore hcharacter hcase.2
      exact ⟨hlines.1, hcharacters.1, hlines.2, hcharacters.2⟩

namespace Benchmark

/-! ### Runs -/

/-- What each run keeps is kept by all of them. -/
theorem Setup.runs_keep {setup : Setup} {P : Progress → Prop}
    (hstep : ∀ {run : Nat} {p : Progress} {case : Case} {picker : Picker} {record : CaseRecord},
      p.picker.pick setup.files = (.ok case, picker) → CaseRecord.new run case = .ok record → P p →
      P { picker
          buckets := (setup.tally run case record p.buckets).2.buckets
          cases := p.cases ++ [(setup.tally run case record p.buckets).2.record] }) :
    ∀ {left run : Nat} {p p' : Progress}, (setup.runs left run p).result = .ok p' → P p → P p' := by
  intro left
  induction left with
  | zero =>
      intro run p p' heq h
      cases heq
      exact h
  | succ left ih =>
      intro run p p' heq h
      simp only [Setup.runs] at heq
      split at heq
      next => cases heq
      next case picker hpick =>
        split at heq
        next => cases heq
        next record hrecord => exact ih heq (hstep hpick hrecord h)

/-- The cases in all records are drawn from files. -/
theorem picked_fits_runs {setup : Setup} {left run : Nat} {p p' : Progress}
    (heq : (setup.runs left run p).result = .ok p') (h : ∀ record ∈ p.cases, record.picked.Fits) :
    ∀ record ∈ p'.cases, record.picked.Fits := by
  refine Setup.runs_keep (P := fun p => ∀ record ∈ p.cases, record.picked.Fits)
    (fun {run p case picker record} hpick hrecord h => ?_) heq h
  intro record' hmem
  rcases List.mem_append.1 hmem with hmem | hmem
  · exact h record' hmem
  · obtain rfl := List.mem_singleton.1 hmem
    have hpicked : (setup.tally run case record p.buckets).2.record.picked = record.picked := by
      simp only [Setup.tally, picked_enterAll, picked_enterAbsent]
    rw [hpicked]
    exact PickedCase.fits_of_ofCase (eq_of_new hrecord).1
      (Picker.nonneg_of_pick (congrArg Prod.fst hpick))

/-! ### Records -/

section Records

variable {c : Circumstances} {config : Config} {root : Path} {case : Case} {record : CaseRecord}
  {es : List Console.Event}

theorem Recorded.summable (h : Recorded c config root case record es) (honce : c.EachOnce)
    (htaken : c.AllTaken) (hsized : c.AllSized) {name : String} {r : ServerCaseResult}
    (hr : record.results.get? name = some r) : r.Summable := by
  have hname : name ∈ config.serverNames :=
    (h.results name).1 (Table.mem_names_iff.2 (by rw [hr]; rfl))
  obtain ⟨server, hserver, rfl⟩ := List.mem_map.1 hname
  obtain ⟨r', hr', -, hmissing, houtcomes⟩ := (h.servers server hserver).result
  obtain rfl := Option.some.inj (hr.symm.trans hr')
  cases hresolve : c.resolve server.command with
  | none =>
      rw [hmissing hresolve]
      exact ServerCaseResult.summable_failed _
  | some program =>
      obtain ⟨outcome, houtcome⟩ :=
        exists_outcome root honce record.run case hserver (by rw [hresolve]; rfl)
      rw [houtcomes outcome houtcome]
      refine (htaken root _ record.run case _ houtcome).summable fun result heq => ?_
      obtain rfl : outcome = .completed result := heq
      exact hsized root _ record.run case server.name result houtcome

theorem Recorded.fits (h : Recorded c config root case record es) (honce : c.EachOnce)
    (htaken : c.AllTaken) (hsized : c.AllSized) (hrun : record.run < 2 ^ 64)
    (hpicked : record.picked.Fits) : record.Fits where
  run := hrun
  picked := hpicked
  results e he := (h.summable honce htaken hsized (Table.get?_of_mem_entries he)).fits
  unresolved e he := by
    have hget := Table.get?_of_mem_entries he
    have hname := h.unresolved e.1 (Table.mem_names_iff.2 (by rw [hget]; rfl))
    obtain ⟨server, hserver, hserverName⟩ := List.mem_map.1 hname
    rw [(h.servers server hserver).picked e.2 (hserverName ▸ hget)]
    exact hpicked

end Records

/-! ### Summaries -/

theorem Recounts.fits {s : ServerSummary} {runs : Nat} {rs : List ServerCaseResult}
    (h : Recounts s runs rs) (hruns : runs < 2 ^ 64) (hrs : ∀ r ∈ rs, r.Summable) : s.Fits := by
  have horder := h.order
  have htotal := h.total
  have htimeouts := h.timeouts
  have hok : s.ok < 2 ^ 64 := by omega
  have hfound : s.found < 2 ^ 64 := by omega
  have hvalid : s.valid < 2 ^ 64 := by omega
  obtain ⟨hokPercent, hfoundPercent, hvalidPercent⟩ := h.percents
  have hsamples : ∀ x ∈ (rs.filter (·.ok)).filterMap (·.latency), x.IsSmall := fun x hx => by
    obtain ⟨r, hr, hlatency⟩ := List.mem_filterMap.1 hx
    exact (hrs r (List.mem_of_mem_filter hr)).latency x hlatency
  refine
    { ok := hok
      okPercent := hokPercent ▸ isFinite_percent hok hruns
      found := hfound
      foundPercent := hfoundPercent ▸ isFinite_percent hfound hruns
      valid := hvalid
      validPercent := hvalidPercent ▸ isFinite_percent hvalid hruns
      errors := by omega
      timeouts := by omega
      latency := ?_ }
  have hcount := h.samples
  rw [h.latency] at hcount ⊢
  rw [LatencyStats.count_ofSamples] at hcount
  exact LatencyStats.fits_ofSamples hsamples (hcount ▸ hok)

/-! ### Reports -/

section Report

variable {c : Circumstances} {config : Config} {report : Report} {files : Files}

/-- The cases in a report are drawn from files. -/
theorem picked_fits_of_result_run (h : (run c config).result = .ok (report, files)) :
    ∀ record ∈ report.cases, record.picked.Fits := by
  obtain ⟨root, picker, p, -, hruns, rfl⟩ := of_result_run h
  exact picked_fits_runs hruns nofun

/-- The report of a benchmark fits. -/
theorem fits_of_result_run (honce : c.EachOnce) (htaken : c.AllTaken) (hsized : c.AllSized)
    (hruns : config.runs < 2 ^ 64) (htime : c.time.isFinite = true)
    (h : (run c config).result = .ok (report, files)) : report.Fits := by
  have hreal := htaken.allReal
  have hlength := length_cases honce hreal h
  obtain ⟨root, hrecorded⟩ := exists_recorded honce hreal h
  obtain ⟨hseed, hreportRuns, hreportTime⟩ :
      report.seed < 2 ^ 64 ∧ report.runs < 2 ^ 64 ∧ report.time.isFinite = true := by
    obtain ⟨-, -, -, -, -, rfl⟩ := of_result_run h
    exact ⟨UInt64.toNat_lt _, hruns, htime⟩
  refine
    { seed := hseed
      runs := hreportRuns
      cases := fun record hmem => ?_
      summary := fun e he => ?_
      time := hreportTime }
  · obtain ⟨i, hi⟩ := List.mem_iff_getElem?.1 hmem
    obtain ⟨case, es, hcase⟩ := hrecorded record hmem
    -- The records are numbered by their places, of which there are as many as runs.
    have hless : i < config.runs := hlength ▸ (List.getElem?_eq_some_iff.1 hi).1
    refine hcase.fits honce htaken hsized ?_ (picked_fits_of_result_run h record hmem)
    rw [run_eq_of_getElem? honce hreal h hi]
    omega
  · have hget : report.summary.get? e.1 = some e.2 := Table.get?_of_mem_entries he
    have hname : e.1 ∈ config.serverNames :=
      (mem_names_summary honce hreal h e.1).1 (Table.mem_names_iff.2 (by rw [hget]; rfl))
    obtain ⟨s, hs, hrecounts⟩ := exists_recounts honce hreal h hname
    obtain rfl : e.2 = s := Option.some.inj (hget.symm.trans hs)
    refine hrecounts.fits hruns fun r hr => ?_
    obtain ⟨record, hmem, hresult⟩ := List.mem_filterMap.1 hr
    obtain ⟨case, es, hcase⟩ := hrecorded record hmem
    exact hcase.summable honce htaken hsized hresult

end Report

theorem latency_small : Binary64.ofNat 1 = Session.elapsed 0 1000000 := by decide +kernel

theorem allTaken_small : small.AllTaken := by
  intro root contenders run case e hmem
  obtain ⟨contender, -, rfl⟩ := List.mem_map.1 hmem
  dsimp only
  split
  · rw [latency_small]
    exact .completed (.success .null 0 1000000)
  · exact .failed _

theorem allSized_small : small.AllSized := by
  intro root contenders run case name result hmem
  obtain ⟨contender, -, heq⟩ := List.mem_map.1 hmem
  have hspan : IsSpan 0 1000000 := by norm_num [IsSpan, Duration.perSecond]
  split at heq
  · cases heq
    exact ⟨Nat.two_pow_pos 64, 0, 1000000, hspan, congrArg some latency_small⟩
  · cases heq

end Benchmark

namespace Report

/-- A report that is read from its own text as it is, and under every path it is written to. -/
def Survives (r : Report) : Prop :=
  ofBytes (Utf8.encode r.text) = .ok r ∧
    ∀ (files files' : Files) (p : Path), write files p r = .ok files' → read files' p = .ok r

theorem readText_of_write {r : Report} {files files' : Files} {p : Path}
    (h : write files p r = .ok files') : files'.readText p = .ok r.text := by
  unfold write at h
  split at h
  next => cases h
  next =>
    split at h
    next => cases h
    next hfile =>
      cases h
      rw [Files.readText, Files.read_of_write hfile]
      dsimp only
      rw [Utf8.decodeString?_encode]

theorem Fits.survives {r : Report} (h : r.Fits) : r.Survives := by
  refine ⟨ofBytes_text h, fun files files' p hwrite => ?_⟩
  rw [read, readText_of_write hwrite]
  dsimp only
  rw [ofBytes_text h]

theorem fits_of_read {files : Files} {p : Path} {r : Report} (h : read files p = .ok r) :
    r.Fits := by
  unfold read at h
  split at h
  next => cases h
  next content _ =>
    split at h
    next => cases h
    next r' hr =>
      cases h
      exact fits_ofBytes hr

/-- Every report with finite numbers, and whole ones within their words, can be written and read
again. So can every report that was read, and every report of a benchmark, whatever the servers
do. -/
theorem roundTrip :
    (∀ r : Report, r.Fits → r.Survives) ∧
      (∀ (files : Files) (p : Path) (r : Report), read files p = .ok r → r.Survives) ∧
      ∀ (c : Benchmark.Circumstances) (config : Config) (report : Report) (files : Files),
        c.EachOnce → c.AllTaken → c.AllSized → config.runs < 2 ^ 64 → c.time.isFinite = true →
          (Benchmark.run c config).result = .ok (report, files) → report.Survives := by
  refine ⟨fun r h => h.survives, fun files p r h => (fits_of_read h).survives, ?_⟩
  intro c config report files honce htaken hsized hruns htime h
  exact (Benchmark.fits_of_result_run honce htaken hsized hruns htime h).survives

/-- A case with awkward strings, and with numbers at the ends of their words. -/
def awkwardCase : PickedCase where
  file := "a\"b\\"
  uri := ""
  line := -2 ^ 63
  character := 2 ^ 63 - 1
  lineFromOne := 0
  characterFromOne := -1
  token := "😀"
  kind := .importedCall
  lineText := "\n\t"

/-- A report in which a location is not usable and the error that goes with it is missing. -/
def awkward : Report where
  root := "é"
  seed := 2 ^ 64 - 1
  runs := 1
  servers := ["s", ""]
  cases := [
    { run := 0
      picked := awkwardCase
      results := Table.empty.put "s" ⟨true, true, 1, some (.ofRatio false 1 3), none,
        [⟨"file:///m.py", ⟨-1, 0⟩, ⟨-2 ^ 63, 2 ^ 63 - 1⟩, false⟩]⟩
      unresolved := Table.empty.put "s" ⟨awkwardCase, .noValidFileLocation, none⟩ }]
  summary := .empty
  time := .ofRatio false 1 10

theorem fits_awkward : awkward.Fits := by
  have hcase : awkwardCase.Fits := by constructor <;> decide
  have hlatency : (Binary64.ofRatio false 1 3).isFinite = true := by decide
  refine ⟨by decide, by decide, List.forall_mem_singleton.2 ?_, nofun, by decide⟩
  refine ⟨by decide, hcase, List.forall_mem_singleton.2 ?_, List.forall_mem_singleton.2 hcase⟩
  refine ⟨by decide, fun x hx => Option.some.inj hx ▸ hlatency, List.forall_mem_singleton.2 ?_⟩
  exact ⟨⟨by decide, by decide⟩, by decide, by decide⟩

/-- Writing into an empty directory succeeds. -/
theorem exists_write_bare (r : Report) :
    ∃ files, write ⟨.directory [], []⟩ (Path.ofString "/r") r = .ok files :=
  ⟨_, rfl⟩

theorem roundTrip_awkward : awkward.Survives ∧
    (∃ files p, read files p = .ok awkward ∧ awkward.Survives) ∧
    ∃ report files, (Benchmark.run Benchmark.small Benchmark.smallConfig).result
      = .ok (report, files) ∧ report.Survives := by
  have hfirst := roundTrip.1 awkward fits_awkward
  obtain ⟨written, hwritten⟩ := exists_write_bare awkward
  have hread := hfirst.2 _ _ _ hwritten
  refine ⟨hfirst, ⟨_, _, hread, roundTrip.2.1 _ _ _ hread⟩, ?_⟩
  obtain ⟨report, files, hresult⟩ := Benchmark.exists_report_small
  exact ⟨report, files, hresult, roundTrip.2.2 _ _ _ _ Benchmark.eachOnce_small
    Benchmark.allTaken_small Benchmark.allSized_small (by decide) (by decide) hresult⟩

end Report

end LookupBench
