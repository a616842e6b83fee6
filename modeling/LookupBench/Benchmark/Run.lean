import LookupBench.Benchmark.Tally
import LookupBench.Config.File
import LookupBench.Console.Progress
import LookupBench.Results.ReportFile
import LookupBench.Sampling.Picker

/-!
# Benchmarks

Each run draws a case and puts it to all servers at the same time. What comes of them is taken in
the order in which they finish; the report does not depend on it.
-/

namespace LookupBench

/-- Why there is no report. -/
inductive BenchmarkFailure where
  | config (fault : ConfigFault)
  | root (path : Path) (cause : IoFailure)
  | sampling (cause : SamplingFailure)
  | report (cause : ReportFailure)
  | overflow (cause : Overflow)

def BenchmarkFailure.message : BenchmarkFailure → String
  | config fault => (ConfigFailure.invalid fault).message
  | root path cause => path.display ++ ": " ++ cause.message
  | sampling cause => cause.message
  | report cause => cause.message
  | overflow cause => cause.message

/-- A server that is there. -/
structure Contender where
  server : Server
  program : Path
  settings : Option Json

namespace Benchmark

/-- What a benchmark shows while it goes on, and what comes of it. -/
structure Outcome (α : Type) where
  events : List Console.Event
  result : Except BenchmarkFailure α

/-- A server is there when its command leads to a program. -/
def contender? (resolve : String → Option Path) (config : Config) (server : Server) :
    Option Contender :=
  (resolve server.command).map fun program =>
    { server, program, settings := config.settingsFor server }

def absentMessage (server : Server) : String :=
  "server unavailable: command not found: " ++ server.command

/-- The runs so far. -/
structure Progress where
  picker : Picker
  buckets : Table Bucket
  cases : List CaseRecord

/-- Put down the servers that are not there. -/
def enterAbsent : List Server → Tally → List Console.Event × Tally
  | [], t => ([], t)
  | server :: rest, t =>
    let (result, t) := t.absent server.name (absentMessage server)
    let (events, t) := enterAbsent rest t
    (.finished server.name result :: events, t)

/-- Put down what came of sessions, in the order in which they finished. -/
def enterAll : List (String × SessionOutcome) → Tally → List Console.Event × Tally
  | [], t => ([], t)
  | (name, outcome) :: rest, t =>
    let (result, t) := t.add name outcome
    let (events, t) := enterAll rest t
    (.finished name result :: events, t)

/-- What is the same in all runs. `conduct` tells what comes of the contenders in a case. -/
structure Setup where
  files : Files
  config : Config
  absent : List Server
  contenders : List Contender
  conduct : Nat → Case → List (String × SessionOutcome)

/-- A run with a case that was drawn for it. -/
def Setup.tally (setup : Setup) (run : Nat) (case : Case) (record : CaseRecord)
    (buckets : Table Bucket) : List Console.Event × Tally :=
  let (absent, t) := enterAbsent setup.absent ⟨record, buckets⟩
  let (finished, t) := enterAll (setup.conduct run case) t
  (absent ++ finished, t)

/-- The runs from one on. -/
def Setup.runs (setup : Setup) : Nat → Nat → Progress → Outcome Progress
  | 0, _, p => ⟨[], .ok p⟩
  | left + 1, run, p =>
    match p.picker.pick setup.files with
    | (.error cause, _) => ⟨[], .error (.sampling cause)⟩
    | (.ok case, picker) =>
      let picked : Console.Event :=
        .picked run setup.config.runs case (setup.contenders.map (·.server.name))
      match CaseRecord.new run case with
      | .error cause => ⟨[picked], .error (.overflow cause)⟩
      | .ok record =>
        let (finished, t) := setup.tally run case record p.buckets
        let rest := setup.runs left (run + 1)
          { picker, buckets := t.buckets, cases := p.cases ++ [t.record] }
        ⟨picked :: finished ++ .runFinished run :: rest.events, rest.result⟩

/-- An empty bucket for every server. -/
def emptyBuckets (config : Config) : Table Bucket :=
  .ofList (config.serverNames.map fun name => (name, .empty))

/-- The report of finished runs. -/
def reportOf (root : Path) (seed : UInt64) (time : Binary64) (config : Config) (p : Progress) :
    Report :=
  { Report.new root seed config.runs config.serverNames time with
    cases := p.cases
    summary := p.buckets.map (·.summarize config.runs) }

/-- Check the configuration and get everything ready: the root and a picker over its sources. -/
def prepare (files : Files) (seed : UInt64) (config : Config) :
    Except BenchmarkFailure (Path × Picker) := do
  (config.check files).mapError .config
  let root ← (files.canonical config.root).mapError (.root config.root)
  let picker ← (Picker.new files root seed).mapError .sampling
  return (root, picker)

/-- Write the report where the configuration says. -/
def deliver (files : Files) (config : Config) (report : Report) : Except BenchmarkFailure Files :=
  match config.output with
  | none => .ok files
  | some path => (report.write files path).mapError .report

/-- What the outside brings to a benchmark. -/
structure Circumstances where
  files : Files
  /-- The program that a command leads to. -/
  resolve : String → Option Path
  /-- What comes of the contenders at a root in a run and its case, in the order in which they
  finish. -/
  conduct : Path → List Contender → Nat → Case → List (String × SessionOutcome)
  /-- A seed for when the configuration has none. -/
  seed : UInt64
  /-- The time, in seconds. -/
  time : Binary64

/-- The whole benchmark: the report, and the files with the report among them. -/
def run (c : Circumstances) (config : Config) : Outcome (Report × Files) :=
  let seed := config.seed.getD c.seed
  match prepare c.files seed config with
  | .error failure => ⟨[], .error failure⟩
  | .ok (root, picker) =>
    let contenders := config.servers.filterMap (contender? c.resolve config)
    let absent := config.servers.filter fun server => (c.resolve server.command).isNone
    let missing := absent.map fun server => Console.Event.unavailable server.name server.command
    let setup : Setup :=
      { files := c.files, config, absent, contenders, conduct := c.conduct root contenders }
    let outcome := setup.runs config.runs 0
      { picker, buckets := emptyBuckets config, cases := [] }
    ⟨missing ++ outcome.events, do
      let p ← outcome.result
      let report := reportOf root seed c.time config p
      return (report, ← deliver c.files config report)⟩

end Benchmark

end LookupBench
