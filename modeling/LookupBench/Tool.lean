import LookupBench.Benchmark.OnHost
import LookupBench.Config.Options

/-!
# The tool

What the program does for its arguments: what it prints, what it does to the files, and the code
that it ends with. All that is meant for people goes to the error stream.
-/

namespace LookupBench

structure ToolRun where
  code : Nat
  output : String := ""
  errors : String := ""
  files : Files
  /-- The file that was written, if there is one. -/
  written : Option Path := none

namespace Tool

def versionText : String := productName ++ " " ++ productVersion ++ "\n"

/-- The code for arguments that are not taken. To help is no failure. -/
def refusalCode : Arguments.Fault → Nat
  | .help | .version => 0
  | _ => 2

/-- The options and commands, a line for each. -/
def usageText : String :=
  let options := Options.grammar.main.parameters.map fun p => "  --" ++ p.name ++ "\n"
  let commands := Options.grammar.commands.map fun c => "  " ++ c.1 ++ "\n"
  "Usage: " ++ productName ++ " [OPTIONS] [COMMAND]\n\nCommands:\n" ++ String.join commands
    ++ "\nOptions:\n" ++ String.join options

def refuse (files : Files) (fault : Arguments.Fault) : ToolRun where
  code := refusalCode fault
  output := match fault with
    | .version => versionText
    | .help => usageText
    | _ => ""
  errors := match fault with
    | .version | .help => ""
    | _ => usageText
  files

def errorLine (message : String) : String := "error: " ++ message ++ "\n"

def writeExample (files : Files) (path : Path) : ToolRun :=
  match Config.writeExample files path with
  | .error failure => { code := 1, errors := errorLine failure.message, files }
  | .ok files =>
    { code := 0, errors := "  created " ++ path.display ++ "\n", files, written := some path }

/-- What is shown before a benchmark begins. -/
def heading (options : Options) (config : Config) : String :=
  (match options.config with
    | some path => "  config " ++ path.display ++ "\n"
    | none => "") ++ "  root " ++ config.root.display ++ "\n"

def eventTexts (events : List Console.Event) : String :=
  String.join (events.map fun event =>
    match event.text with
    | .ok text => text
    | .error _ => "")

/-- What is shown behind a benchmark that has a report. -/
def closing (options : Options) (config : Config) (report : Report) : String :=
  (if options.quiet then "" else Console.summaryTable report)
    ++ match config.output with
      | some path => "\n  -> " ++ path.display ++ "\n"
      | none => ""

def benchmark (host : Host) (seed : UInt64) (time : Binary64) (options : Options)
    (config : Config) : ToolRun :=
  let outcome := host.benchmark config seed time
  let before := heading options config
    ++ if options.quiet then "" else eventTexts outcome.events
  match outcome.result with
  | .error failure =>
    { code := 1, errors := before ++ errorLine failure.message, files := host.files }
  | .ok (report, files) =>
    { code := 0, errors := before ++ closing options config report, files, written := config.output }

def run (host : Host) (seed : UInt64) (time : Binary64) (args : List String) : ToolRun :=
  match Options.ofArguments args with
  | .error fault => refuse host.files fault
  | .ok options =>
    match options.exampleAt with
    | some path => writeExample host.files path
    | none =>
      match Config.ofOptions host.files options with
      | .error failure => { code := 1, errors := errorLine failure.message, files := host.files }
      | .ok config => benchmark host seed time options config

end Tool

end LookupBench
