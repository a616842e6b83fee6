import LookupBench.Benchmark.Run
import LookupBench.Host

/-!
# Benchmarks on a host

Every contender gets a process of its own for every case, and a client that lives as long.
-/

namespace LookupBench.Host

/-- The session of a contender in a case: what comes of it, and the messages that its server
read. -/
def session (host : Host) (config : Config) (root : Path) (contender : Contender) (case : Case) :
    SessionOutcome × List Json :=
  match host.files.read case.file with
  | .error cause => (.failed (ClientFailure.document case.file cause).message, [])
  | .ok content =>
    let name := contender.server.name
    match host.connect name contender.program contender.server.arguments root config.trace with
    | .error failure => (.failed failure.message, [])
    | .ok state =>
      let text := Utf8.decodeStringLossy content
      let (outcome, (w, _)) := (Query.run Wire.surroundings config name contender.settings
        (Uri.ofPath host.files root) text case).run state
      (outcome, w.received)

/-- The sessions of all contenders in a case. -/
def conduct (host : Host) (config : Config) (root : Path) (contenders : List Contender) (_ : Nat)
    (case : Case) : List (String × SessionOutcome) :=
  contenders.map fun contender =>
    (contender.server.name, (host.session config root contender case).1)

/-- The circumstances of a benchmark on this host. -/
def circumstances (host : Host) (config : Config) (seed : UInt64) (time : Binary64) :
    Benchmark.Circumstances where
  files := host.files
  resolve := host.resolve
  conduct := host.conduct config
  seed
  time

/-- A benchmark on this host. -/
def benchmark (host : Host) (config : Config) (seed : UInt64) (time : Binary64) :
    Benchmark.Outcome (Report × Files) :=
  Benchmark.run (host.circumstances config seed time) config

/-- What a server read over a list of cases. -/
def transcript (host : Host) (config : Config) (root : Path) (contender : Contender)
    (cases : List Case) : List Json :=
  cases.flatMap fun case => (host.session config root contender case).2

end LookupBench.Host
