import LookupBench.Server.Script
import LookupBench.Server.StubOptions

/-!
# Server processes

A server that runs is one of two kinds. Either is told by its messages alone what to do next.
-/

namespace LookupBench

/-- A program that a server can be started from. -/
inductive Program where
  | script (steps : List Script.Step)
  | stub

inductive Process where
  | script (s : Script)
  | stub (s : Stub)

/-- Start a program: the process, and what it does before it reads anything. -/
def Program.start (args : List String) : Program → Process × List Effect
  | script steps =>
    let (s, effects) := Script.start { steps }
    (.script s, effects)
  | stub =>
    match Stub.Options.ofArguments args with
    | .ok options => (.stub { options }, [])
    | .error fault => (.stub { options := {} }, [.exit (Stub.refusalCode fault)])

namespace Process

/-- Read a message. -/
def receive (m : Json) : Process → Process × List Effect
  | script s =>
    let (s, effects) := s.receive m
    (.script s, effects)
  | stub s =>
    let (s, effects) := s.receive m
    (.stub s, effects)

/-- How many more steps a process takes of its own accord. Beyond them it only answers requests. -/
def stepsLeft : Process → Nat
  | script s => s.steps.length
  | stub _ => 0

end Process

end LookupBench
