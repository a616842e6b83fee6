import LookupBench.Arguments
import LookupBench.Config.CommandLine
import LookupBench.Config.File
import LookupBench.Json.Message
import LookupBench.Json.Reader
import LookupBench.Text.Quoted

/-!
# Options

The options of the benchmark on a command line, and the configuration that they make of a file or,
without one, of the defaults. What is said on the command line wins.
-/

namespace LookupBench

structure Options where
  config : Option Path := none
  root : Option Path := none
  /-- Names of the servers to keep. -/
  servers : List String := []
  /-- Servers as `NAME=COMMAND`. -/
  commands : List String := []
  runs : Option Nat := none
  timeout : Option Binary64 := none
  startTimeout : Option Binary64 := none
  settings : Option String := none
  withoutIndexing : List String := []
  seed : Option UInt64 := none
  output : Option Path := none
  trace : Bool := false
  warmup : Option Nat := none
  quiet : Bool := false
  /-- Where to write an example, if that is what is asked for. -/
  exampleAt : Option Path := none

namespace Options

def helpOption : Arguments.Parameter := { name := "help", letter := some 'h', use := .help }

def exampleCommand : Arguments.Command where
  parameters := [helpOption]
  operand := some { name := "path", use := .single .path }

def grammar : Arguments.Grammar where
  main.parameters := [
    { name := "config", letter := some 'c', use := .single .path },
    { name := "root", use := .single .path },
    { name := "servers", use := .repeated .text (some ',') },
    { name := "cmd", use := .repeated .text none },
    { name := "runs", use := .single .natural },
    { name := "timeout", use := .single .number },
    { name := "init-timeout", use := .single .number },
    { name := "settings-json", use := .single .text },
    { name := "disable-indexing", use := .repeated .text none },
    { name := "seed", use := .single .natural },
    { name := "json", use := .single .path },
    { name := "trace", use := .flag },
    { name := "didopen-warmup-ms", use := .single .natural },
    { name := "quiet", letter := some 'q', use := .flag },
    helpOption,
    { name := "version", letter := some 'V', use := .version }]
  commands := [("init", exampleCommand)]

def defaultExample : String := "defbench.yaml"

def ofGiven (given : Arguments.Given) : Options :=
  let main := given.main
  let natural (name : String) : Option Nat :=
    (main.first? name).bind fun v => parseNat64? v.toList
  let number (name : String) : Option Binary64 :=
    (main.first? name).bind fun v => parseBinary64? v.toList
  let path (name : String) : Option Path := (main.first? name).map Path.ofString
  { config := path "config"
    root := path "root"
    servers := main.all "servers"
    commands := main.all "cmd"
    runs := natural "runs"
    timeout := number "timeout"
    startTimeout := number "init-timeout"
    settings := main.first? "settings-json"
    withoutIndexing := main.all "disable-indexing"
    seed := (natural "seed").map Nat.toUInt64
    output := path "json"
    trace := main.isGiven "trace"
    warmup := natural "didopen-warmup-ms"
    quiet := main.isGiven "quiet"
    exampleAt := given.command.map fun (_, values) =>
      Path.ofString ((values.first? "path").getD defaultExample) }

def ofArguments (args : List String) : Except Arguments.Fault Options :=
  (grammar.read args).map ofGiven

end Options

/-- Why options make no configuration. -/
inductive OptionsFailure where
  | config (failure : ConfigFailure)
  | noEquals (entry : String)
  | unknownServer (name : String)
  | badSettings (cause : Json.Failure)

def OptionsFailure.message : OptionsFailure → String
  | config failure => failure.message
  | noEquals entry => "config error: --cmd expects NAME=COMMAND, got " ++ quoted entry
  | unknownServer name =>
    "config error: no command configured for server " ++ quoted name ++ " (use --cmd " ++ name
      ++ "=...)"
  | badSettings cause => "config error: --settings-json must be valid JSON: " ++ cause.message

namespace Config

/-- Give a server a command. One that is there keeps its place and its settings. -/
def putServer (server : Server) : List Server → List Server
  | [] => [server]
  | s :: rest =>
    if s.name = server.name then
      { s with command := server.command, arguments := server.arguments } :: rest
    else s :: putServer server rest

/-- The server that an entry `NAME=COMMAND` describes. -/
def serverOfEntry (entry : String) : Except OptionsFailure Server :=
  match splitOnce '=' entry.toList with
  | none => .error (.noEquals entry)
  | some (name, line) =>
    (Server.ofCommandLine (String.ofList (trim name)) (String.ofList line)).mapError
      fun fault => .config (.invalid fault)

def putServers (servers : List Server) (entries : List String) :
    Except OptionsFailure (List Server) :=
  entries.foldlM (fun servers entry => do return putServer (← serverOfEntry entry) servers) servers

/-- The names that a choice of servers asks for. -/
def wanted (names : List String) : List String :=
  (names.map trimText).filter fun name => !name.isEmpty

/-- Keep the servers that are asked for, all if nothing is said about it. -/
def keepServers (names : List String) (servers : List Server) :
    Except OptionsFailure (List Server) :=
  if names.isEmpty then .ok servers
  else
    match (wanted names).find? fun name => servers.all fun s => s.name ≠ name with
    | some name => .error (.unknownServer name)
    | none => .ok (servers.filter fun s => (wanted names).contains s.name)

/-- Names that are added to a list, each once. -/
def addNames (names added : List String) : List String :=
  added.foldl (fun names name => if names.contains name then names else names ++ [name]) names

/-- The servers that are not to index: those of the file that are kept, and all that the options
name. -/
def indexingWith (config : Config) (added : List String) : List String :=
  (addNames config.withoutIndexing added).filter fun name =>
    config.serverNames.contains name || added.contains name

def readSettings (text : String) : Except OptionsFailure Json :=
  (Json.read .any (Utf8.encode text)).mapError .badSettings

/-- A configuration with what the options say in place of its own. -/
def override (options : Options) (config : Config) : Except OptionsFailure Config := do
  let config := { config with root := options.root.getD config.root }
  let servers ← putServers config.servers options.commands
  let servers ← keepServers options.servers servers
  let settings ← match options.settings with
    | some text => (readSettings text).map some
    | none => pure config.settings
  let config := { config with
    servers
    runs := options.runs.getD config.runs
    timeout := options.timeout.getD config.timeout
    startTimeout := options.startTimeout.getD config.startTimeout
    settings }
  return { config with
    withoutIndexing := config.indexingWith options.withoutIndexing
    seed := options.seed.or config.seed
    output := options.output.or config.output
    warmup := options.warmup.getD config.warmup
    trace := config.trace || options.trace }

/-- The configuration that options stand for. -/
def ofOptions (files : Files) (options : Options) : Except OptionsFailure Config := do
  let start ← match options.config with
    | some path => (load files path).mapError .config
    | none => pure (.new (Path.ofString ".") [])
  let config ← start.override options
  (config.check files).mapError fun fault => .config (.invalid fault)
  return config

end Config

end LookupBench
