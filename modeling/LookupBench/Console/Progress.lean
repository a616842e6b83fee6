import LookupBench.Console.Columns
import LookupBench.Number.Shortest
import LookupBench.Results.Report

/-!
# What a benchmark shows

A line for each server that is not there, one for each case, and a table at the end. How lookups
go is shown only on a terminal, which this is not.
-/

namespace LookupBench.Console

/-- What a benchmark tells while it runs. -/
inductive Event where
  | unavailable (name command : String)
  | picked (run runs : Nat) (case : Case) (servers : List String)
  | finished (name : String) (result : ServerCaseResult)
  | runFinished (run : Nat)

/-- The text that an event shows. -/
def Event.text : Event → Except Overflow String
  | unavailable name command => .ok ("  skip " ++ name ++ " -- " ++ command ++ " not found\n")
  | picked run runs case _ => do
    let line ← oneMore case.position.line
    let character ← oneMore case.position.character
    pure ("\n[" ++ Decimal.natText (run + 1) ++ "/" ++ Decimal.natText runs ++ "] "
      ++ case.file.display ++ ":" ++ Decimal.intText line ++ ":" ++ Decimal.intText character
      ++ "  " ++ case.token ++ " " ++ case.kind.label ++ "\n")
  | finished .. => .ok ""
  | runFinished _ => .ok ""

/-! ### The table at the end -/

/-- Columns one after the other: the first filled up on the right, the others on the left. -/
def row (name : List Char) (columns : List (Nat × List Char)) : List Char :=
  ' ' :: ' ' :: padRight 20 name ++ columns.flatMap (fun (width, s) => ' ' :: padLeft width s)
    ++ ['\n']

def widths : List Nat := [7, 7, 7, 6, 8, 9, 9]

def titles : List (List Char) :=
  ["ok%", "found%", "valid%", "errors", "timeouts", "p50 ms", "p95 ms"].map String.toList

def milliseconds : Option Binary64 → List Char
  | some x => x.tenthsText
  | none => ['-']

def summaryColumns (s : ServerSummary) : List (List Char) :=
  [s.okPercent.tenthsText, s.foundPercent.tenthsText, s.validPercent.tenthsText,
    Decimal.natDigits s.errors, Decimal.natDigits s.timeouts,
    milliseconds s.latency.p50, milliseconds s.latency.p95]

/-- The summaries of a report in the order of its servers. -/
def summaryTable (r : Report) : String :=
  let title := "\nSummary (" ++ Decimal.natText r.runs ++ " runs, seed " ++ Decimal.natText r.seed
    ++ ")\n"
  let rows := r.servers.flatMap fun name =>
    match r.summary.get? name with
    | some s => row name.toList (widths.zip (summaryColumns s))
    | none => []
  title ++ String.ofList (row "server".toList (widths.zip titles) ++ rows)

end LookupBench.Console
