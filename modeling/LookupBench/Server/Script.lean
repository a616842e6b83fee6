import LookupBench.Client.Message
import LookupBench.Server.Effect

/-!
# Scripted servers

A server that follows a script: it reads, writes and ends when the script says so. Behind the script
it goes on and answers every request with null, until it is told to exit.
-/

namespace LookupBench

namespace Script

inductive Step where
  /-- Read so many messages. -/
  | receive (count : Nat)
  | send (message : Json)
  /-- Answer the last request that was read with the given members. -/
  | reply (members : List (String × Json))
  | write (bytes : Bytes)
  | complain (bytes : Bytes)
  | exit (code : Nat)

end Script

structure Script where
  steps : List Script.Step
  /-- How many messages the step at hand has yet to read. -/
  awaiting : Nat := 0
  lastId : Json := .null

namespace Script

/-- Follow the script up to the next message that it waits for. -/
def follow (s : Script) : List Step → Script × List Effect
  | [] => ({ s with steps := [] }, [])
  | .receive 0 :: rest => follow s rest
  | .receive (n + 1) :: rest => ({ s with steps := rest, awaiting := n + 1 }, [])
  | .send message :: rest =>
    let (s, more) := follow s rest
    (s, .send message :: more)
  | .reply members :: rest =>
    let (after, more) := follow s rest
    let message := Json.ofMembers (members ++ [("id", s.lastId), ("jsonrpc", .string "2.0")])
    (after, .send message :: more)
  | .write bytes :: rest =>
    let (s, more) := follow s rest
    (s, .output bytes :: more)
  | .complain bytes :: rest =>
    let (s, more) := follow s rest
    (s, .errors bytes :: more)
  | .exit code :: _ => ({ s with steps := [] }, [.exit code])

def start (s : Script) : Script × List Effect := s.follow s.steps

/-- Read a message. -/
def receive (m : Json) (s : Script) : Script × List Effect :=
  let s := { s with lastId := (m.get? "id").getD s.lastId }
  match s.awaiting with
  | n + 1 =>
    let s := { s with awaiting := n }
    if n = 0 then s.follow s.steps else (s, [])
  | 0 =>
    match Message.method? m, m.get? "id" with
    | some "exit", _ => (s, [.exit 0])
    | some _, some id => (s, [.send (Message.answer id .null)])
    | _, _ => (s, [])

end Script

end LookupBench
