import LookupBench.Client.ErrorTail
import LookupBench.Client.Failure
import LookupBench.Client.Routing
import LookupBench.Frame

/-!
# Clients

A client holds one session with one server. Three work at it: the caller, who numbers requests and
waits for their answers; the writer, who takes messages out of the outbox; and the reader, who
routes what comes. They take turns in any order, so each of their moves is a function of its own.
-/

namespace LookupBench

structure Client where
  name : String
  root : Path
  trace : Bool
  /-- The number of the process that the client runs in. -/
  processId : Nat
  nextId : Nat := 1
  boxes : Mailboxes := {}
  /-- Whether the reader and the writer are still at work. -/
  reading : Bool := true
  writing : Bool := true
  tail : ErrorTail := {}
  /-- Whether nobody has waited for the end of the server yet. -/
  running : Bool := true
  /-- Whether the server was asked to end. -/
  stopping : Bool := false
  /-- Whether the program that the client is part of has ended, for want of memory. -/
  aborted : Bool := false

/-- What the caller of a request finds when it looks for the answer. -/
inductive Awaited where
  | answered (message : Json)
  /-- Nobody will answer any more. -/
  | closed
  | waiting

namespace Client

/-! ### Moves of the caller -/

/-- Take the next number for a request, and wait for its answer from here on. -/
def register (c : Client) : Nat × Client :=
  (c.nextId, { c with
    nextId := c.nextId + 1
    boxes := { c.boxes with pending := c.boxes.pending ++ [c.nextId] } })

/-- What a message is called when it cannot be sent. -/
def label (message : Json) : String := (Message.method? message).getD "response"

/-- Queue a message for the writer. -/
def send (message : Json) (c : Client) : Except ClientFailure Client :=
  if c.writing then
    .ok { c with boxes := { c.boxes with outbox := c.boxes.outbox ++ [.message message] } }
  else .error (.writerClosed c.name (label message))

/-- Queue the end of all messages. -/
def close (c : Client) : Client :=
  if c.writing then
    { c with boxes := { c.boxes with outbox := c.boxes.outbox ++ [.close] } }
  else c

def look (id : Nat) (c : Client) : Awaited :=
  match c.boxes.answers.find? fun a => a.1 = id with
  | some (_, message) => .answered message
  | none => if c.boxes.pending.contains id then .waiting else .closed

def isWaiting (id : Nat) (c : Client) : Bool :=
  match c.look id with
  | .waiting => true
  | _ => false

/-- Wait no longer for the answer to a request. -/
def retire (id : Nat) (c : Client) : Client :=
  { c with boxes := { c.boxes with
    pending := c.boxes.pending.filter (· ≠ id)
    answers := c.boxes.answers.filter fun a => a.1 ≠ id } }

/-- The result that an answer holds. An error among its members counts, whatever it looks like. -/
def result (method : String) (answer : Json) (c : Client) : Except ClientFailure Json :=
  match answer.get? "error" with
  | some e =>
    .error (.protocol c.name method (((e.get? "code").bind Json.asInt64?).getD 0)
      (((e.get? "message").bind Json.asString?).getD "unknown"))
  | none => .ok ((answer.get? "result").getD .null)

/-- Lines of the error stream that go with a request that was not answered in time. -/
def tailLines : Nat := 40

/-- What comes of a request, by what the caller finds. One that is still waited for was not answered
in time. -/
def conclude (method : String) (limit : Duration) (c : Client) :
    Awaited → Except ClientFailure Json
  | .answered message => c.result method message
  | .closed => .error (.closed c.name method)
  | .waiting => .error (.timeout c.name method limit (c.tail.text tailLines))

def outcome (id : Nat) (method : String) (limit : Duration) (c : Client) :
    Except ClientFailure Json :=
  c.conclude method limit (c.look id)

/-- Take all notifications. -/
def takeNotifications (c : Client) : List Json × Client :=
  (c.boxes.notifications, { c with boxes := { c.boxes with notifications := [] } })

/-! ### Moves of the writer -/

/-- The next thing to write. -/
def nextOutbound (c : Client) : Option (Outbound × Client) :=
  match c.boxes.outbox with
  | [] => none
  | item :: rest => some (item, { c with boxes := { c.boxes with outbox := rest } })

/-- The writer ends. What is still queued is lost. -/
def stopWriting (c : Client) : Client :=
  { c with writing := false, boxes := { c.boxes with outbox := [] } }

/-! ### Moves of the readers -/

def receive (message : Json) (c : Client) : Client :=
  { c with boxes := c.boxes.route c.writing message }

/-- The server writes no more. -/
def endOfInput (c : Client) : Client := { c with boxes := c.boxes.abandon, reading := false }

/-- The reader cannot go on, and wakes nobody. -/
def stopReading (refusal : Frame.Refusal) (c : Client) : Client :=
  { c with reading := false, aborted := c.aborted || refusal.endsProgram }

def hear (bytes : Bytes) (c : Client) : Client := { c with tail := c.tail.feed bytes }

def endOfErrors (c : Client) : Client := { c with tail := c.tail.finish }

end Client

end LookupBench
