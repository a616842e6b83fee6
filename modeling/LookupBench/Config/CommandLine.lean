import LookupBench.Config.Check
import LookupBench.Text.ShellWords

/-!
# Servers from command lines
-/

namespace LookupBench

/-- The server that a command line starts. -/
def Server.ofCommandLine (name line : String) : Except ConfigFault Server :=
  match shellWords? line with
  | none => .error (.openQuote name)
  | some [] => .error (.noCommand name)
  | some (command :: arguments) => .ok { name, command, arguments, settings := none }

end LookupBench
