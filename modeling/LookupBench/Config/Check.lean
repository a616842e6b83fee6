import LookupBench.Config.Basic
import LookupBench.Files.Tree
import LookupBench.Text.Blank

/-!
# Checking configurations

A configuration is checked before any server is started. The first fault counts.
-/

namespace LookupBench

inductive Waiting where
  | definition
  | start
  | stop
  deriving DecidableEq, Repr

def Waiting.label : Waiting → String
  | .definition => "timeout"
  | .start => "init timeout"
  | .stop => "shutdown timeout"

/-- Why a configuration makes no sense. -/
inductive ConfigFault where
  | noServers
  | noRoot (root : Path)
  | noRuns
  | badSeconds (waiting : Waiting)
  | noName
  | noCommand (server : String)
  | openQuote (server : String)
  | repeatedName (server : String)
  | unknownIndexing (server : String)
  deriving DecidableEq, Repr

def ConfigFault.message : ConfigFault → String
  | .noServers => "no servers selected"
  | .noRoot root => "root is not a directory: " ++ root.display
  | .noRuns => "runs must be at least 1"
  | .badSeconds waiting => waiting.label ++ " must be a positive number of seconds"
  | .noName => "server with empty name"
  | .noCommand server => server ++ ": empty command"
  | .openQuote server => server ++ ": unbalanced quotes in command"
  | .repeatedName server => "duplicate server name: " ++ server
  | .unknownIndexing server => "disable_indexing names unknown server: " ++ server

/-- Finite and more than zero. -/
def isWaitable (seconds : Binary64) : Bool :=
  seconds.isFinite && (Binary64.zero false).lt seconds

def checkSeconds (waiting : Waiting) (seconds : Binary64) : Except ConfigFault Unit :=
  if isWaitable seconds then .ok () else .error (.badSeconds waiting)

def isBlankText (s : String) : Bool := s.toList.all isBlank

/-- Each server has a name of its own and a command. `seen` holds the names in front. -/
def checkServers (seen : List String) : List Server → Except ConfigFault Unit
  | [] => .ok ()
  | server :: rest =>
    if isBlankText server.name then .error .noName
    else if isBlankText server.command then .error (.noCommand server.name)
    else if seen.contains server.name then .error (.repeatedName server.name)
    else checkServers (server.name :: seen) rest

namespace Config

def checkIndexing (config : Config) : Except ConfigFault Unit :=
  match config.withoutIndexing.find? fun name => !config.serverNames.contains name with
  | some name => .error (.unknownIndexing name)
  | none => .ok ()

def check (files : Files) (config : Config) : Except ConfigFault Unit := do
  if config.servers.isEmpty then throw .noServers
  if !files.isDirectory config.root then throw (.noRoot config.root)
  if config.runs = 0 then throw .noRuns
  checkSeconds .definition config.timeout
  checkSeconds .start config.startTimeout
  checkSeconds .stop config.stopTimeout
  checkServers [] config.servers
  checkIndexing config

end Config

end LookupBench
