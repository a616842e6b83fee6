import LookupBench.Client.Basic

/-!
# Exchanges

A client at work, one move at a time. The caller goes through a request in four moves: it registers
a waiter, queues the message, settles on what comes of it, and takes the waiter off the list. The
reader deals with an answer in two: it takes the waiter off the list, and then hands the message
over. The moves of all come in any order, so a limit can be reached between the two moves of the
reader, and the reader can find that the waiter is gone.

Moves that matter to requests and answers leave an event each; the events of a run, in order, are
its history.
-/

namespace LookupBench

/-- The number of the request that a message answers. A message for a method answers none, and only
a whole number within 64 bits is the number of a request. -/
def Message.answered? (m : Json) : Option Nat :=
  match method? m with
  | some _ => none
  | none => (m.get? "id").bind Json.asNat64?

namespace Mailboxes

/-- Take a waiter off the list. -/
def unlist (id : Nat) (boxes : Mailboxes) : Mailboxes :=
  { boxes with pending := boxes.pending.filter (· ≠ id) }

/-- Put an answer where its waiter finds it. -/
def handOver (id : Nat) (m : Json) (boxes : Mailboxes) : Mailboxes :=
  { boxes with answers := boxes.answers ++ [(id, m)] }

end Mailboxes

/-- Where the caller is in a request. -/
inductive Phase where
  | idle
  /-- The waiter is registered, and the message is still to be queued. -/
  | registered (id : Nat) (method : String) (params : Json)
  | waiting (id : Nat) (method : String)
  /-- What comes of the request is known, and the waiter is still to be taken off the list. -/
  | settled (id : Nat) (method : String) (outcome : Except ClientFailure Json)

/-- The request that is under way: its number and its method. -/
def Phase.request? : Phase → Option (Nat × String)
  | idle => none
  | registered id method _ | waiting id method | settled id method _ => some (id, method)

def Phase.id? (phase : Phase) : Option Nat := phase.request?.map Prod.fst

/-- An answer between the two moves of the reader. Messages are told apart by how many arrived
before them. -/
structure Delivery where
  arrival : Nat
  id : Nat
  message : Json

structure Exchange where
  client : Client
  phase : Phase := .idle
  /-- What the reader has in its hand. -/
  hand : Option Delivery := none
  /-- How many messages have arrived. -/
  arrived : Nat := 0

inductive Event where
  | started (id : Nat) (method : String)
  | received (message : Json)
  | handed (arrival id : Nat)
  | returned (id : Nat) (outcome : Except ClientFailure Json)
  /-- The reader reached the end of what the server writes. -/
  | ended
  | other

/-- The messages that arrived, in order. -/
def arrivals (es : List Event) : List Json :=
  es.filterMap fun
    | .received m => some m
    | _ => none

/-- The numbers of the requests that were started. -/
def starts (es : List Event) : List Nat :=
  es.filterMap fun
    | .started id _ => some id
    | _ => none

/-- Which arrivals were handed to which requests. -/
def handovers (es : List Event) : List (Nat × Nat) :=
  es.filterMap fun
    | .handed arrival id => some (arrival, id)
    | _ => none

/-- The numbers of the requests that came back to their callers. -/
def returns (es : List Event) : List Nat :=
  es.filterMap fun
    | .returned id _ => some id
    | _ => none

namespace Exchange

/-- A client with which nothing has been done yet. -/
def opening (name : String) (root : Path) (trace : Bool) (processId : Nat) : Exchange where
  client := { name, root, trace, processId }

/-- What the caller finds. An answer in the hand of the reader is still waited for. -/
def sight (id : Nat) (s : Exchange) : Awaited :=
  match s.client.look id with
  | .closed => if s.hand.any (·.id = id) then .waiting else .closed
  | found => found

/-! ### Moves -/

/-- What the caller does besides requests. -/
inductive CallerAside : Client → Client → Prop where
  | notify {c c' : Client} {m : Json} (hsend : c.send m = .ok c') : CallerAside c c'
  | collect (c : Client) : CallerAside c c.takeNotifications.2
  | close (c : Client) : CallerAside c c.close

/-- What the writer and the reader of the error stream do, and the end of the reader when it cannot
go on. -/
inductive WorkerAside : Client → Client → Prop where
  | write {c c' : Client} {item : Outbound} (hnext : c.nextOutbound = some (item, c')) :
      WorkerAside c c'
  | stopWriting (c : Client) : WorkerAside c c.stopWriting
  | stopReading (c : Client) (refusal : Frame.Refusal) : WorkerAside c (c.stopReading refusal)
  | hear (c : Client) (bytes : Bytes) : WorkerAside c (c.hear bytes)
  | endOfErrors (c : Client) : WorkerAside c c.endOfErrors

inductive Step : Exchange → Event → Exchange → Prop where
  | start (s : Exchange) (method : String) (params : Json) (hphase : s.phase = .idle) :
      Step s (.started s.client.register.1 method)
        { s with
          client := s.client.register.2
          phase := .registered s.client.register.1 method params }
  | post (s : Exchange) {id : Nat} {method : String} {params : Json} {c : Client}
      (hphase : s.phase = .registered id method params)
      (hsend : s.client.send (Message.request id method params) = .ok c) :
      Step s .other { s with client := c, phase := .waiting id method }
  | refuse (s : Exchange) {id : Nat} {method : String} {params : Json} {failure : ClientFailure}
      (hphase : s.phase = .registered id method params)
      (hsend : s.client.send (Message.request id method params) = .error failure) :
      Step s .other { s with phase := .settled id method (.error failure) }
  /-- The caller takes the answer that is there, finds that none will come, or reaches the limit
  while there is none. -/
  | settle (s : Exchange) {id : Nat} {method : String} (limit : Duration)
      (hphase : s.phase = .waiting id method) :
      Step s .other
        { s with phase := .settled id method (s.client.conclude method limit (s.sight id)) }
  | retire (s : Exchange) {id : Nat} {method : String} {outcome : Except ClientFailure Json}
      (hphase : s.phase = .settled id method outcome) :
      Step s (.returned id outcome) { s with client := s.client.retire id, phase := .idle }
  | callerAside (s : Exchange) {c : Client} (hphase : s.phase = .idle)
      (haside : CallerAside s.client c) : Step s .other { s with client := c }
  /-- The reader takes the waiter of an answer off the list. -/
  | claim (s : Exchange) {m : Json} {id : Nat} (hreading : s.client.reading = true)
      (hhand : s.hand = none) (hanswer : Message.answered? m = some id)
      (hpending : id ∈ s.client.boxes.pending) :
      Step s (.received m)
        { s with
          client := { s.client with boxes := s.client.boxes.unlist id }
          hand := some ⟨s.arrived, id, m⟩
          arrived := s.arrived + 1 }
  /-- The waiter is still there, and gets the message. -/
  | handOver (s : Exchange) {d : Delivery} (hhand : s.hand = some d)
      (hthere : s.phase.id? = some d.id) :
      Step s (.handed d.arrival d.id)
        { s with
          client := { s.client with boxes := s.client.boxes.handOver d.id d.message }
          hand := none }
  /-- The waiter is gone, and the message with it. -/
  | drop (s : Exchange) {d : Delivery} (hhand : s.hand = some d)
      (hgone : s.phase.id? ≠ some d.id) : Step s .other { s with hand := none }
  /-- The reader deals with any other message, or an answer that nobody waits for. -/
  | route (s : Exchange) {m : Json} (hreading : s.client.reading = true) (hhand : s.hand = none)
      (hnone : ∀ id, Message.answered? m = some id → id ∉ s.client.boxes.pending) :
      Step s (.received m) { s with client := s.client.receive m, arrived := s.arrived + 1 }
  | finish (s : Exchange) (hreading : s.client.reading = true) (hhand : s.hand = none) :
      Step s .ended { s with client := s.client.endOfInput }
  | workerAside (s : Exchange) {c : Client} (haside : WorkerAside s.client c) :
      Step s .other { s with client := c }

/-- Any moves in any order, with their history. -/
inductive Run (s₀ : Exchange) : List Event → Exchange → Prop where
  | nil : Run s₀ [] s₀
  | snoc {es : List Event} {s s' : Exchange} {e : Event} (hrun : Run s₀ es s)
      (hstep : Step s e s') : Run s₀ (es ++ [e]) s'

end Exchange

/-! ### The routing of messages, in these moves -/

namespace Mailboxes

theorem id?_bind_asNat64? (m : Json) :
    (Message.id? m).bind Json.asNat64? = (m.get? "id").bind Json.asNat64? := by
  cases hid : m.get? "id" with
  | none => simp [Message.id?, hid]
  | some v => cases v <;> simp [Message.id?, hid, Option.filter, Json.isNull, Json.asNat64?]

/-- An answer that is waited for is routed by the two moves of the reader, one after the other. -/
theorem route_eq_of_mem {m : Json} {id : Nat} {boxes : Mailboxes} (writing : Bool)
    (hanswer : Message.answered? m = some id) (hpending : id ∈ boxes.pending) :
    boxes.route writing m = (boxes.unlist id).handOver id m := by
  unfold Message.answered? at hanswer
  cases hmethod : Message.method? m with
  | some method => simp [hmethod] at hanswer
  | none =>
      simp only [hmethod] at hanswer
      rw [← id?_bind_asNat64?] at hanswer
      obtain ⟨v, hid, hnat⟩ := Option.bind_eq_some_iff.1 hanswer
      simp [route, hmethod, hid, deliver, hnat, hpending, unlist, handOver]

/-- Any other message leaves the waiters and their answers alone. -/
theorem route_waiters_of_notMem {m : Json} (boxes : Mailboxes) (writing : Bool)
    (hnone : ∀ id, Message.answered? m = some id → id ∉ boxes.pending) :
    (boxes.route writing m).pending = boxes.pending ∧
      (boxes.route writing m).answers = boxes.answers := by
  cases hmethod : Message.method? m with
  | some method => cases hid : Message.id? m <;> simp [route, hmethod, hid, keep]
  | none =>
      cases hid : Message.id? m with
      | none => simp [route, hmethod, hid, keep]
      | some v =>
          have hanswer : Message.answered? m = v.asNat64? := by
            simp only [Message.answered?, hmethod]
            rw [← id?_bind_asNat64?, hid, Option.bind_some]
          cases hnat : v.asNat64? with
          | none => simp [route, hmethod, hid, deliver, hnat]
          | some id =>
              have hout : id ∉ boxes.pending := hnone id (hanswer.trans hnat)
              simp [route, hmethod, hid, deliver, hnat, hout]

end Mailboxes

end LookupBench
