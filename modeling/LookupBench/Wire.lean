import LookupBench.Client.Session
import LookupBench.Server.Process

/-!
# A client and its server

The pipes between a client and a process, with a clock of their own. A process does what it is told
in order, and what takes it no time happens at once; so the clock moves only while somebody waits.
What a process does is known as soon as it has been told, and comes to the client at its time.
-/

namespace LookupBench

structure Wire where
  process : Process
  /-- The time, in nanoseconds since the process was started. -/
  now : Nat := 0
  /-- When the process will have done all that it was told. -/
  busyUntil : Nat
  /-- What the process does and when, in order. -/
  coming : List (Nat × Effect)
  /-- Whether the process is past reading: its end is coming, or has come. -/
  leaving : Bool := false
  /-- Whether the process has ended. -/
  gone : Bool := false
  /-- What the process wrote and the client could not read yet. -/
  unread : Bytes := []
  /-- The messages that the process read, the last first. -/
  heard : List Json := []
  /-- The machine of the client has memory for bodies that are shorter than this. -/
  limit : Nat := Frame.capacity

namespace Wire

/-- How long a process takes to get going. -/
def bootTime : Nat := 10000000

/-- How long the end of a process is waited for. -/
def grace : Nat := 3000000000

/-- Give each effect its time, from a moment on: the moment behind them, and the effects. -/
def schedule (moment : Nat) : List Effect → Nat × List (Nat × Effect)
  | [] => (moment, [])
  | .pause n :: rest => schedule (moment + n) rest
  | effect :: rest =>
    let (last, more) := schedule moment rest
    (last, (moment, effect) :: more)

/-- The wire to a process that was just started. -/
def ofProcess (process : Process) (effects : List Effect) : Wire :=
  let (busyUntil, coming) := schedule bootTime effects
  { process, busyUntil, coming, leaving := effects.any Effect.isExit }

/-- Have the process do something behind all that it has to do. -/
def enqueue (effects : List Effect) (w : Wire) : Wire :=
  let (busyUntil, coming) := schedule (max w.now w.busyUntil) effects
  { w with busyUntil, coming := w.coming ++ coming, leaving := effects.any Effect.isExit }

/-- Output that nobody reads any more is the end of a process. -/
def unheeded : List Effect → List Effect
  | [] => []
  | .output _ :: _ => [.exit 1]
  | effect :: rest => effect :: unheeded rest

/-- A message reaches the process. -/
def accept (reading : Bool) (m : Json) (w : Wire) : Wire :=
  if w.leaving then w
  else
    let (process, effects) := w.process.receive m
    { w with process, heard := m :: w.heard }.enqueue (if reading then effects else unheeded effects)

/-- The writer does the next thing. A pipe to a process that has ended breaks at the first message,
which is lost, and a program that has ended writes none. -/
def transmit (item : Outbound) : Wire × Client → Wire × Client
  | (w, c) =>
    match item with
    | .message m =>
      if w.gone || c.aborted then (w, c.stopWriting) else (w.accept c.reading m, c)
    | .close => (if w.leaving then w else w.enqueue [.exit 0], c.stopWriting)

/-- Write all that is queued. -/
def flush : Nat → Wire × Client → Wire × Client
  | 0, state => state
  | fuel + 1, (w, c) =>
    match c.nextOutbound with
    | none => (w, c)
    | some (item, c) => flush fuel (transmit item (w, c))

/-- Whether the last line of an input may go on, when nothing follows that line yet. -/
def mayGoOn (input rest : Bytes) : Bool := rest.isEmpty && input.getLast? != some 10

/-- The reader reads all whole messages, and stops for good at one that there is no buffer for. A
line that may go on is not taken for a blank one. -/
def readWith (limit : Nat) : Nat → Bytes → Client → Bytes × Client
  | 0, input, c => (input, c)
  | fuel + 1, input, c =>
    match Frame.read input limit with
    | .message m rest => readWith limit fuel rest (c.receive m)
    | .finished => (input, c)
    | .refused refusal rest => (input, if mayGoOn input rest then c else c.stopReading refusal)

/-- The reader finds that no more will come. -/
def finishReading (limit : Nat) (unread : Bytes) (c : Client) : Client :=
  match Frame.read unread limit with
  | .refused refusal _ => c.stopReading refusal
  | _ => c.endOfInput

/-- Something that the process does comes to the client. -/
def deliver (effect : Effect) : Wire × Client → Wire × Client
  | (w, c) =>
    match effect with
    | .output bytes =>
      if c.reading then
        let input := w.unread ++ bytes
        let (unread, c) := readWith w.limit (input.length + 1) input c
        ({ w with unread }, c)
      else (w, c)
    | .errors bytes => (w, c.hear bytes)
    | .pause _ => (w, c)
    | .exit _ =>
      let c := if c.reading then finishReading w.limit w.unread c else c
      ({ w with gone := true }, c.endOfErrors)

/-- Have all come that is due. -/
def deliverDue : Nat → Wire × Client → Wire × Client
  | 0, state => state
  | fuel + 1, (w, c) =>
    match w.coming with
    | (moment, effect) :: rest =>
      if moment ≤ w.now then deliverDue fuel (deliver effect ({ w with coming := rest }, c))
      else (w, c)
    | [] => (w, c)

/-- Take turns until nothing is left to do at this moment. What the process makes the client write
are answers to its own requests; they only lead on in a script. -/
def settleWith : Nat → Wire × Client → Wire × Client
  | 0, state => state
  | fuel + 1, (w, c) =>
    let (w, c) := flush c.boxes.outbox.length (w, c)
    let (w, c) := deliverDue w.coming.length (w, c)
    if c.boxes.outbox.isEmpty then (w, c) else settleWith fuel (w, c)

def settle (state : Wire × Client) : Wire × Client :=
  settleWith (state.1.process.stepsLeft + 3) state

/-- Let time pass until something holds of the client, or the deadline is reached. -/
def passUntil (met : Wire → Client → Bool) (deadline : Nat) :
    Nat → Wire × Client → Wire × Client
  | 0, state => state
  | fuel + 1, state =>
    let (w, c) := settle state
    if met w c then (w, c)
    else match w.coming with
      | (moment, _) :: _ =>
        if moment ≤ deadline then passUntil met deadline fuel ({ w with now := moment }, c)
        else ({ w with now := max w.now deadline }, c)
      | [] => ({ w with now := max w.now deadline }, c)

/-- Let time pass, at most so many nanoseconds. -/
def pass (met : Wire → Client → Bool) (nanoseconds : Nat) (state : Wire × Client) :
    Wire × Client :=
  let (w, c) := settle state
  passUntil met (w.now + nanoseconds) (w.coming.length + w.process.stepsLeft + 3) (w, c)

/-- The process is not waited for any longer. -/
def kill : Wire × Client → Wire × Client
  | (w, c) =>
    if w.gone then (w, c)
    else deliver (.exit 137) ({ w with leaving := true, coming := [] }, c)

def surroundings : Surroundings Wire where
  clock w := w.now
  settle := settle
  await id limit := pass (fun _ c => !c.isWaiting id) limit.nanoseconds
  rest duration := pass (fun _ _ => false) duration.nanoseconds
  finish state := kill (pass (fun w _ => w.gone) grace state)

/-- The messages that the process read, in order. -/
def received (w : Wire) : List Json := w.heard.reverse

end Wire

end LookupBench
