import LookupBench.Frame

/-!
# What a server does

A server is told from outside only by what it writes, how long it takes, and when it ends.
-/

namespace LookupBench

inductive Effect where
  | output (bytes : Bytes)
  | errors (bytes : Bytes)
  /-- Nothing, for so many nanoseconds. -/
  | pause (nanoseconds : Nat)
  | exit (code : Nat)
  deriving Repr

namespace Effect

def send (message : Json) : Effect := output (Frame.write message)

def isExit : Effect → Bool
  | exit _ => true
  | _ => false

def line (text : String) : Effect := errors (Utf8.encode (text ++ "\n"))

end Effect

end LookupBench
