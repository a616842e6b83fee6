import LookupBench.Config.Check
import LookupBench.Yaml.Decode

/-!
# Configuration files

A configuration is kept in a YAML file. Everything but the root has a default. A relative root starts
at the directory of the file.
-/

namespace LookupBench

inductive ConfigFailure where
  | invalid (fault : ConfigFault)
  | present (path : Path)
  | unreadable (path : Path) (cause : IoFailure)
  | malformed (path : Path) (cause : Yaml.DecodeFailure)
  | unwritable (path : Path) (cause : IoFailure)

def ConfigFailure.message : ConfigFailure → String
  | .invalid fault => "config error: " ++ fault.message
  | .present path => "config error: " ++ path.display ++ " already exists"
  | .unreadable path cause => "error reading config " ++ path.display ++ ": " ++ cause.message
  | .malformed path cause => "error parsing config " ++ path.display ++ ": " ++ cause.message
  | .unwritable path cause => path.display ++ ": " ++ cause.message

open Yaml

/-- A server as far as it has been read. -/
structure ServerDraft where
  name : Option String := none
  command : Option String := none
  arguments : List String := []
  settings : Option Json := none

namespace ServerDraft

def fields : List String := ["name", "cmd", "args", "settings"]

def step (d : ServerDraft) (field : String) : Decoder ServerDraft := fun site node => do
  match field with
  | "name" => return { d with name := some (← Decoder.text "a string" site node) }
  | "cmd" => return { d with command := some (← Decoder.text "a string" site node) }
  | "args" => return { d with arguments := ← Decoder.list (Decoder.text "a string") site node }
  | _ => return { d with settings := ← Decoder.optional Decoder.value site node }

def finish (d : ServerDraft) : Except Misfit Server :=
  match d.name, d.command with
  | none, _ => .error (.missing "name")
  | _, none => .error (.missing "cmd")
  | some name, some command =>
    .ok { name, command, arguments := d.arguments, settings := d.settings }

end ServerDraft

def Server.decoder : Decoder Server :=
  Decoder.record "ServerSpec" ServerDraft.fields ServerDraft.step {} ServerDraft.finish

namespace Config

def fields : List String :=
  ["root", "servers", "runs", "timeout_secs", "init_timeout_secs", "shutdown_timeout_secs",
    "settings", "disable_indexing", "seed", "output", "trace", "didopen_warmup_ms", "language_id"]

def pathText : Decoder Path := fun site node => do
  return Path.ofString (← Decoder.text "path string" site node)

/-- Take the value of a field. The flag says whether the root has been read. -/
def step (d : Bool × Config) (field : String) : Decoder (Bool × Config) := fun site node => do
  let (rooted, c) := d
  match field with
  | "root" => return (true, { c with root := ← pathText site node })
  | "servers" => return (rooted, { c with servers := ← Decoder.list Server.decoder site node })
  | "runs" => return (rooted, { c with runs := ← Decoder.natural "usize" site node })
  | "timeout_secs" => return (rooted, { c with timeout := ← Decoder.number site node })
  | "init_timeout_secs" => return (rooted, { c with startTimeout := ← Decoder.number site node })
  | "shutdown_timeout_secs" => return (rooted, { c with stopTimeout := ← Decoder.number site node })
  | "settings" => return (rooted, { c with settings := ← Decoder.optional Decoder.value site node })
  | "disable_indexing" =>
    return (rooted, { c with withoutIndexing := ← Decoder.list (Decoder.text "a string") site node })
  | "seed" =>
    let seed ← Decoder.optional (Decoder.natural "u64") site node
    return (rooted, { c with seed := seed.map Nat.toUInt64 })
  | "output" => return (rooted, { c with output := ← Decoder.optional pathText site node })
  | "trace" => return (rooted, { c with trace := ← Decoder.flag site node })
  | "didopen_warmup_ms" => return (rooted, { c with warmup := ← Decoder.natural "u64" site node })
  | _ => return (rooted, { c with language := ← Decoder.text "a string" site node })

def decoder : Decoder Config :=
  Decoder.record "BenchConfig" fields step (false, .new [] [])
    fun (rooted, c) => if rooted then .ok c else .error (.missing "root")

/-- The configuration that a text holds, with the root as it is written. -/
def ofText (text : String) : Except DecodeFailure Config := decodeText decoder text

/-- A root that is relative starts at the directory of a file. -/
def rootedAt (file : Path) (config : Config) : Config :=
  if config.root.isAbsolute then config
  else match file.parent with
    | some directory => { config with root := directory.join config.root }
    | none => config

def load (files : Files) (path : Path) : Except ConfigFailure Config :=
  match files.readText path with
  | .error cause => .error (.unreadable path cause)
  | .ok text =>
    match ofText text with
    | .error cause => .error (.malformed path cause)
    | .ok config => .ok (config.rootedAt path)

/-! ### A file to start with -/

def exampleLines : List String :=
  ["# Go-to-definition benchmark configuration",
    "",
    "# Source tree to sample from (relative paths are relative to this file)",
    "root: .",
    "",
    "# Number of random cases; each is sent to every server in parallel",
    "runs: 20",
    "",
    "# Seconds per definition request; timeouts count as errors, not latency",
    "timeout_secs: 10",
    "# Seconds allowed for initialize (cold start indexing can be slow)",
    "init_timeout_secs: 120",
    "",
    "# Fix the seed to replay the same cases",
    "# seed: 0",
    "",
    "# Write the JSON report here",
    "output: defbench.json",
    "",
    "# Optional settings pushed to every server after initialize",
    "# settings:",
    "#   python:",
    "#     analysis:",
    "#       typeCheckingMode: off",
    "",
    "# Servers that should skip background indexing",
    "# disable_indexing: [pyright]",
    "",
    "servers:",
    "  - name: pyright",
    "    cmd: pyright-langserver",
    "    args: [\"--stdio\"]",
    "",
    "  # - name: pyrefly",
    "  #   cmd: pyrefly",
    "  #   args: [\"lsp\"]",
    "  #",
    "  # - name: ty",
    "  #   cmd: ty",
    "  #   args: [\"server\"]"]

def exampleText : String := String.join (exampleLines.map (· ++ "\n"))

/-- Write an example where nothing stands yet. -/
def writeExample (files : Files) (path : Path) : Except ConfigFailure Files :=
  if files.present path then .error (.present path)
  else match files.write path (Utf8.encode exampleText) with
    | .error cause => .error (.unwritable path cause)
    | .ok files => .ok files

end Config

end LookupBench
