import LookupBench.Files.Failure
import LookupBench.Location
import LookupBench.Number.Duration

/-!
# Failures of a session

What can go wrong between a client and one server, in words, and the outcome of one lookup. None of
these ends a benchmark: each counts for the server in question.
-/

namespace LookupBench

inductive ClientFailure where
  | spawn (server program : String) (cause : IoFailure)
  | notStarted (server : String)
  /-- No answer in time. The tail is the last of what the server wrote to its error stream. -/
  | timeout (server method : String) (limit : Duration) (tail : String)
  | protocol (server method : String) (code : Int) (text : String)
  | closed (server method : String)
  | writerClosed (server method : String)
  | document (path : Path) (cause : IoFailure)
  deriving Repr

namespace ClientFailure

def tailText (server tail : String) : String :=
  if tail.isEmpty then "" else "\n--- " ++ server ++ " stderr (tail) ---\n" ++ tail

def message : ClientFailure → String
  | spawn server program cause =>
    server ++ ": failed to start " ++ program ++ ": " ++ cause.message
  | notStarted server => server ++ ": process not started"
  | timeout server method limit tail =>
    server ++ ": timeout after " ++ String.ofList limit.toSeconds.tenthsText
      ++ "s waiting for response to " ++ method ++ tailText server tail
  | protocol server method code text =>
    server ++ ": LSP error for " ++ method ++ ": " ++ Decimal.intText code ++ " " ++ text
  | closed server method => server ++ ": connection closed while waiting for " ++ method
  | writerClosed server method => server ++ ": stdin closed, cannot send " ++ method
  | document path cause => path.display ++ ": " ++ cause.message

def isTimeout : ClientFailure → Bool
  | timeout .. => true
  | _ => false

end ClientFailure

/-- The outcome of one lookup. An empty answer is still an answer. -/
structure LookupResult where
  ok : Bool
  found : Bool
  count : Nat
  latency : Option Binary64
  error : Option String
  timedOut : Bool
  locations : List Location
  deriving Repr

namespace LookupResult

def success (locations : List Location) (latency : Binary64) : LookupResult where
  ok := true
  found := !locations.isEmpty
  count := locations.length
  latency := some latency
  error := none
  timedOut := false
  locations := locations

def failure (cause : ClientFailure) (latency : Option Binary64) : LookupResult where
  ok := false
  found := false
  count := 0
  latency := latency
  error := some cause.message
  timedOut := cause.isTimeout
  locations := []

end LookupResult

end LookupBench
