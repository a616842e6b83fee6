import LookupBench.Files.Path
import LookupBench.Json.Value
import LookupBench.Number.Duration

/-!
# Configurations

What is to be compared: the servers, the sources that cases are sampled from, how many runs, and how
long to wait for what.
-/

namespace LookupBench

/-- A server and the command that starts it. -/
structure Server where
  name : String
  command : String
  arguments : List String
  /-- These settings stand in for the ones of the configuration. -/
  settings : Option Json
  deriving Inhabited

structure Config where
  root : Path
  servers : List Server
  runs : Nat
  /-- Seconds to wait for a definition. -/
  timeout : Binary64
  /-- Seconds to wait for a server to get ready. -/
  startTimeout : Binary64
  /-- Seconds to wait for a server to end. -/
  stopTimeout : Binary64
  /-- Settings that every server is told. -/
  settings : Option Json
  /-- Names of servers that are told not to index. -/
  withoutIndexing : List String
  seed : Option UInt64
  output : Option Path
  trace : Bool
  /-- Milliseconds between showing a server a file and asking about it. -/
  warmup : Nat
  language : String
  deriving Inhabited

namespace Config

/-- Servers and sources, and the default for everything else. -/
def new (root : Path) (servers : List Server) : Config where
  root := root
  servers := servers
  runs := 1
  timeout := .ofNat 10
  startTimeout := .ofNat 120
  stopTimeout := .ofNat 5
  settings := none
  withoutIndexing := []
  seed := none
  output := none
  trace := false
  warmup := 0
  language := "python"

def serverNames (config : Config) : List String := config.servers.map (·.name)

/-- Settings that keep a server from indexing a workspace and its libraries. -/
def indexingOff : List (String × Json) :=
  [("python", .object [("analysis", .object [("autoSearchPaths", .bool false),
    ("indexing", .bool false), ("useLibraryCodeForTypes", .bool false)])])]

/-- The settings that a server is told: its own, or else those of the configuration. A server that
is not to index finds that among them, unless they say otherwise or are no object. -/
def settingsFor (config : Config) (server : Server) : Option Json :=
  let chosen := server.settings.or config.settings
  if !config.withoutIndexing.contains server.name then chosen
  else match chosen with
    | none => some (.ofMembers indexingOff)
    | some (.object members) => some (.ofMembers (indexingOff ++ members))
    | some other => some other

end Config

end LookupBench
