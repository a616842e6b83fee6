import LookupBench.Client.Basic

/-!
# Sessions

What the caller of a client does, step by step: greet the server, show it a document, look a name
up, and say goodbye. Between two steps the writer, the reader and the server may do anything that is
theirs to do, and time may pass. What that is, the surroundings say; so whatever holds in all
surroundings holds in every order of the moves.
-/

namespace LookupBench

/-- All that goes on around a caller. `σ` is the state of what is outside the client. -/
structure Surroundings (σ : Type) where
  /-- Nanoseconds since some moment. -/
  clock : σ → Nat
  /-- The others do what they can do at once. -/
  settle : σ × Client → σ × Client
  /-- Time passes until the request is answered, or will not be, or the limit is reached. -/
  await : Nat → Duration → σ × Client → σ × Client
  /-- Time passes. -/
  rest : Duration → σ × Client → σ × Client
  /-- Time passes until the server has ended. One that does not end is made to. -/
  finish : σ × Client → σ × Client

/-- A piece of a session. Whatever comes of it, the session goes on from where it is. -/
abbrev Session (σ α : Type) := ExceptT ClientFailure (StateM (σ × Client)) α

namespace Session

variable {σ : Type}

/-- A move of the caller that cannot fail. -/
def move {α : Type} (f : Client → α × Client) : Session σ α := do
  let (outside, c) ← get
  let (a, c) := f c
  set (outside, c)
  return a

def change (f : Client → Client) : Session σ Unit := move fun c => ((), f c)

/-- The others take their turn. -/
def yield (s : Surroundings σ) : Session σ Unit := modify s.settle

def send (s : Surroundings σ) (message : Json) : Session σ Unit := do
  yield s
  let (outside, c) ← get
  match c.send message with
  | .ok c => set (outside, c)
  | .error failure => throw failure
  yield s

def notify (s : Surroundings σ) (method : String) (params : Json) : Session σ Unit :=
  send s (Message.notification method params)

/-- Send a request and wait for its answer. Whatever comes of it, nobody waits for it afterwards. -/
def request (s : Surroundings σ) (method : String) (params : Json) (limit : Duration) :
    Session σ Json := do
  yield s
  let id ← move Client.register
  tryCatch (send s (Message.request id method params)) fun failure => do
    change (·.retire id)
    throw failure
  modify (s.await id limit)
  let (_, c) ← get
  let outcome := c.outcome id method limit
  yield s
  change (·.retire id)
  liftExcept outcome
where
  liftExcept {α : Type} : Except ClientFailure α → Session σ α
    | .ok a => pure a
    | .error failure => throw failure

/-- Start the session. What the server says of itself is the result. -/
def handshake (s : Surroundings σ) (rootUri : String) (limit : Duration) : Session σ Json := do
  let (_, c) ← get
  let said ← request s "initialize"
    (Message.introduction c.processId rootUri (Message.folderName c.root) c.trace) limit
  notify s "initialized" (.object [])
  return said

def configure (s : Surroundings σ) (settings : Json) : Session σ Unit :=
  notify s "workspace/didChangeConfiguration" (Message.settings settings)

def openDocument (s : Surroundings σ) (uri text language : String) : Session σ Unit :=
  notify s "textDocument/didOpen" (Message.document uri text language)

/-- The milliseconds between two moments. -/
def elapsed (start stop : Nat) : Binary64 :=
  (Duration.toSeconds ⟨stop - start⟩).mul (.ofNat 1000)

/-- Look up what stands at a position. A failure is an outcome like others. -/
def lookup (s : Surroundings σ) (uri : String) (position : Position) (limit : Duration) :
    Session σ LookupResult := do
  let (outside, _) ← get
  let start := s.clock outside
  let outcome : Except ClientFailure Json ←
    tryCatch (do return .ok (← request s "textDocument/definition"
        (Message.position uri position) limit))
      fun failure => return .error failure
  let (outside, _) ← get
  let latency := elapsed start (s.clock outside)
  match outcome with
  | .ok answer => return .success (Location.ofAnswer answer) latency
  | .error failure => return .failure failure (some latency)

/-- Do something whose failure does not matter. -/
def attempt {α : Type} (action : Session σ α) : Session σ Unit :=
  tryCatch (do let _ ← action) fun _ => pure ()

/-- Ask the server to end, close the pipe to it, and wait for its end. Once is enough. -/
def shutdown (s : Surroundings σ) (limit : Duration) : Session σ Unit := do
  let (_, c) ← get
  if c.running then
    unless c.stopping do
      change fun c => { c with stopping := true }
      attempt (request s "shutdown" .null limit)
      attempt (notify s "exit" .null)
    change (·.close)
    modify s.finish
    change fun c => { c with running := false }

end Session

end LookupBench
