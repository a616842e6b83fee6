import LookupBench.Arguments
import LookupBench.Server.Stub

/-!
# Options of the stub server
-/

namespace LookupBench.Stub

def Mode.names : List (String × Mode) :=
  [("location", .location), ("link", .link), ("empty", .empty), ("null", .null), ("hang", .hang),
    ("error", .error), ("mixed", .mixed)]

def grammar : Arguments.Grammar where
  main.parameters := [
    { name := "mode", use := .single (.choice (Mode.names.map (·.1))) },
    { name := "line", use := .single .integer },
    { name := "character", use := .single .integer },
    { name := "target-uri", use := .single .text },
    { name := "delay-ms", use := .single .natural },
    { name := "ask-configuration", use := .flag },
    { name := "crash-on", use := .single .text },
    { name := "flood", use := .single .natural },
    { name := "echo-position", use := .flag },
    { name := "help", letter := some 'h', use := .help }]

def Options.ofValues (given : Arguments.Values) : Options :=
  let integer (name : String) : Int :=
    ((given.first? name).bind fun v => parseInt64? v.toList).getD 0
  let natural (name : String) : Nat :=
    ((given.first? name).bind fun v => parseNat64? v.toList).getD 0
  { mode := ((given.first? "mode").bind (entryOf? · Mode.names)).getD .location
    line := integer "line"
    character := integer "character"
    targetUri := given.first? "target-uri"
    delay := natural "delay-ms"
    askConfiguration := given.isGiven "ask-configuration"
    crashOn := given.first? "crash-on"
    flood := natural "flood"
    echoPosition := given.isGiven "echo-position" }

def Options.ofArguments (args : List String) : Except Arguments.Fault Options :=
  (grammar.read args).map fun given => .ofValues given.main

/-- The code with which a program ends that does not take its arguments. To help is no failure. -/
def refusalCode : Arguments.Fault → Nat
  | .help | .version => 0
  | _ => 2

end LookupBench.Stub
