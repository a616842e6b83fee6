import LookupBench.Proofs.Stream
import LookupBench.Server.StubOptions

/-!
# What the stub server writes

Message by message, up to the one at which the server ends: one response to a request, with its id
as it came, and after the notification that a session has started a request for settings and log
messages, as many as it was told to write. Nothing else. A method that is the empty text counts as
none, even when it is the one to crash on.
-/

namespace LookupBench

/-- What an effect puts on the standard output. -/
def Effect.output? : Effect → Option Bytes
  | output bytes => some bytes
  | _ => none

namespace Stub

/-! ### Messages -/

def lookupMethod : String := "textDocument/definition"

/-- A request: it has a method and an id, be it null. -/
structure Asks (m : Json) (method : String) (id : Json) : Prop where
  calls : Message.method? m = some method
  ne_empty : method ≠ ""
  names : m.get? "id" = some id

/-- A notification: it has a method and no id. -/
structure Notes (m : Json) (method : String) : Prop where
  calls : Message.method? m = some method
  ne_empty : method ≠ ""
  nameless : m.get? "id" = none

/-- Whether a message has the method at which the server is to end, the empty text included. -/
def namesEnd (o : Options) (m : Json) : Bool :=
  match Message.method? m with
  | none => false
  | some method => method = "exit" || o.crashOn = some method

/-- Whether the server ends at a message. -/
def ends (o : Options) (m : Json) : Bool := namesEnd o m && Message.method? m ≠ some ""

/-- The messages that are read before the one at which the server ends. -/
def served (o : Options) (input : Bytes) (limit : Nat := Frame.capacity) : List Json :=
  (Frame.messages input limit).takeWhile (!ends o ·)

/-- A lookup is answered with a range of three characters, which must end within 64 bits. -/
def InReach (o : Options) (m : Json) : Prop :=
  ∀ id, Asks m lookupMethod id →
    (place o ((m.get? "params").getD .null)).2.2 + 3 ≤ Location.highest

/-! ### Frames -/

/-- A response with this id. -/
def Responds (id response : Json) : Prop :=
  (∃ result, response = Message.answer id result) ∨
    ∃ code text, response = Message.refusal id code text

/-- What follows the `n`-th start of a session. -/
def announcement (o : Options) (n : Nat) : List Json :=
  (if o.askConfiguration then [configurationRequest n] else [])
    ++ (List.range o.flood).map fun i => logMessage (i + 1) o.flood

/-- What the server writes on one message. The next start of a session is the `n`-th before it and the
`n'`-th after it. -/
inductive Reaction (o : Options) (n : Nat) (m : Json) : List Json → Nat → Prop where
  | response {method : String} {id response : Json} (h : Asks m method id)
      (hmode : method = lookupMethod → o.mode ≠ .hang) (hresponse : Responds id response) :
      Reaction o n m [response] n
  | unanswered {id : Json} (h : Asks m lookupMethod id) (hmode : o.mode = .hang) :
      Reaction o n m [] n
  | started (h : Notes m "initialized") :
      Reaction o n m (announcement o n) (n + 1)
  | noted {method : String} (h : Notes m method) (hother : method ≠ "initialized") :
      Reaction o n m [] n
  | unnamed (h : ∀ method, Message.method? m = some method → method = "") : Reaction o n m [] n

/-- What the server writes on messages in order. -/
inductive Reactions (o : Options) : Nat → List Json → List Json → Prop where
  | nil (n : Nat) : Reactions o n [] []
  | cons {n n' : Nat} {m : Json} {ms now later : List Json} (hnow : Reaction o n m now n')
      (hlater : Reactions o n' ms later) : Reactions o n (m :: ms) (now ++ later)

/-- Whether a frame calls a method, as opposed to a response. -/
def isCall (frame : Json) : Bool := (Message.method? frame).isSome

/-- The id of a response. -/
def responseId? (frame : Json) : Option Json := if isCall frame then none else frame.get? "id"

/-- Whether a message tells that a session has started. -/
def starts (m : Json) : Bool := Message.method? m = some "initialized" && m.get? "id" = none

/-- The id of a message that is to be answered. -/
def answeredId? (o : Options) (m : Json) : Option Json :=
  match Message.method? m with
  | none => none
  | some method =>
    if method = "" ∨ method = lookupMethod ∧ o.mode = .hang then none else m.get? "id"

/-! ### One message -/

section Step

variable {o : Options} {n : Nat} {m : Json}

/-- What is written, frame by frame. -/
def writes (effects : List Effect) : List Bytes := effects.filterMap Effect.output?

theorem writes_append (effects more : List Effect) :
    writes (effects ++ more) = writes effects ++ writes more :=
  List.filterMap_append

/-- The server before the `n`-th start of a session. Starts are counted only to ask for settings. -/
def before (o : Options) (n : Nat) : Stub where
  options := o
  nextId := if o.askConfiguration then n else 1

/-- What the server does on a message while it goes on: it writes these frames, and the next start of
a session is the `n`-th. -/
structure Goes (o : Options) (outcome : Stub × List Effect) (frames : List Json) (n : Nat) : Prop where
  state : outcome.1 = before o n
  writes : writes outcome.2 = frames.map Frame.write
  stays : outcome.2.any Effect.isExit = false

theorem exists_range? {character : Int} (line : Int) (h : character + 3 ≤ Location.highest) :
    ∃ range, range? line character = some range :=
  ⟨_, if_neg (Int.not_lt.2 h)⟩

/-- A lookup within reach is answered, unless the server is to hang. -/
theorem lookup_cases {params : Json} (h : (place o params).2.2 + 3 ≤ Location.highest) :
    o.mode = .hang ∧ lookup o params = .silent ∨
      o.mode ≠ .hang ∧ ((∃ value, lookup o params = .result value) ∨
        ∃ code text, lookup o params = .refusal code text) := by
  unfold lookup
  generalize place o params = found at h
  obtain ⟨uri, line, character⟩ := found
  obtain ⟨range, hrange⟩ := exists_range? line h
  obtain ⟨front, hfront⟩ := exists_range? line (show (0 : Int) + 3 ≤ Location.highest by decide)
  obtain ⟨odd, hodd⟩ := exists_range? (-1) (show (0 : Int) + 3 ≤ Location.highest by decide)
  cases hmode : o.mode
  case hang => exact .inl ⟨rfl, rfl⟩
  case error => exact .inr ⟨nofun, .inr ⟨_, _, rfl⟩⟩
  all_goals refine .inr ⟨nofun, .inl ?_⟩
  case empty | null => exact ⟨_, rfl⟩
  case location =>
    dsimp only
    rw [hrange]
    exact ⟨_, rfl⟩
  case link =>
    dsimp only
    rw [hrange, hfront]
    exact ⟨_, rfl⟩
  case mixed =>
    dsimp only
    rw [hrange, hodd]
    exact ⟨_, rfl⟩

/-- An effect that neither writes nor ends anything. -/
theorem Goes.cons {s : Stub} {effects : List Effect} {frames : List Json} {effect : Effect}
    (h : Goes o (s, effects) frames n) (hwrites : effect.output? = none)
    (hstays : effect.isExit = false) : Goes o (s, effect :: effects) frames n where
  state := h.state
  writes := (List.filterMap_cons_none hwrites).trans h.writes
  stays := by rw [List.any_cons, hstays, h.stays]; rfl

theorem goes_send {s : Stub} {effects : List Effect} {frames : List Json} (hs : s = before o n)
    (h : effects = frames.map Effect.send) : Goes o (s, effects) frames n where
  state := hs
  writes := by
    rw [h, writes, List.filterMap_map, ← List.filterMap_eq_map]
    rfl
  stays := by
    rw [h, List.any_map]
    exact List.any_eq_false.2 fun _ _ => Bool.false_ne_true

theorem Goes.delayed {s : Stub} {effects : List Effect} {frames : List Json} {time : Nat}
    (h : Goes o (s, effects) frames n) :
    Goes o (s, (if o.delay = 0 then [] else [.pause time]) ++ effects) frames n := by
  split
  · exact h
  · exact h.cons rfl rfl

/-- A lookup is answered once, unless the server is to hang. -/
theorem respond_lookup_goes {id params : Json} (hasks : Asks m lookupMethod id)
    (hreach : (place o params).2.2 + 3 ≤ Location.highest) : ∃ frames, Reaction o n m frames n ∧
      Goes o (before o n, respond lookupMethod id (lookup o params)) frames n := by
  rcases lookup_cases hreach with
    ⟨hmode, hreply⟩ | ⟨hmode, ⟨value, hreply⟩ | ⟨code, text, hreply⟩⟩
  · rw [hreply]
    exact ⟨[], .unanswered hasks hmode, rfl, rfl, rfl⟩
  · rw [hreply]
    exact ⟨_, .response hasks (fun _ => hmode) (.inl ⟨value, rfl⟩), goes_send rfl rfl⟩
  · rw [hreply]
    exact ⟨_, .response hasks (fun _ => hmode) (.inr ⟨code, text, rfl⟩), goes_send rfl rfl⟩

/-- A request is answered once, with its own id, unless it is a lookup and the server is to hang. -/
theorem onRequest_goes {method : String} {id : Json} (hasks : Asks m method id)
    (hreach : InReach o m) : ∃ frames, Reaction o n m frames n ∧
      Goes o (before o n, onRequest method id m o) frames n := by
  by_cases hlookup : method = lookupMethod
  · subst hlookup
    obtain ⟨frames, hreaction, hgoes⟩ := respond_lookup_goes hasks (hreach id hasks)
    refine ⟨frames, hreaction, ?_⟩
    have hsame : lookupMethod = "textDocument/definition" := rfl
    rw [onRequest, if_neg (by decide), if_pos hsame]
    exact hgoes.delayed
  · have hresponse : ∀ result, Reaction o n m [Message.answer id result] n := fun result =>
      .response hasks (absurd · hlookup) (.inl ⟨result, rfl⟩)
    unfold onRequest
    rw [if_neg (show ¬method = "textDocument/definition" from hlookup)]
    split
    · exact ⟨_, hresponse _, goes_send rfl rfl⟩
    · exact ⟨_, hresponse _, goes_send rfl rfl⟩

theorem onNotification_goes {method : String} (hnotes : Notes m method) : ∃ frames n',
    Reaction o n m frames n' ∧ Goes o ((before o n).onNotification method) frames n' := by
  by_cases hstarted : method = "initialized"
  · subst hstarted
    refine ⟨_, _, .started hnotes, ?_⟩
    have hlogs : ((List.range o.flood).map fun i => logMessage (i + 1) o.flood).map Effect.send
        = (List.range o.flood).map fun i => Effect.send (logMessage (i + 1) o.flood) := List.map_map
    have hflag : (before o n).options.askConfiguration = o.askConfiguration := rfl
    rw [onNotification, if_neg (not_not.2 rfl), announcement, hflag]
    cases hask : o.askConfiguration with
    | true =>
        refine goes_send ?_ ?_
        · simp [before, hask]
        · simp [before, hask, hlogs]
    | false =>
        refine goes_send ?_ ?_
        · simp [before, hask]
        · simp [before, hlogs]
  · rw [onNotification, if_pos hstarted]
    exact ⟨_, _, .noted hnotes hstarted, rfl, rfl, rfl⟩

/-- One message that the server does not end at. -/
theorem receive_goes (hends : ends o m = false) (hreach : InReach o m) : ∃ frames n',
    Reaction o n m frames n' ∧
      Goes o ((before o n).receive m) frames n' := by
  by_cases hnamed : (Message.method? m).getD "" = ""
  · refine ⟨[], n, .unnamed fun method hmethod => ?_, ?_⟩
    · rwa [hmethod] at hnamed
    · rw [receive, if_pos hnamed]
      exact ⟨rfl, rfl, rfl⟩
  · obtain ⟨method, hmethod⟩ : ∃ method, Message.method? m = some method := by
      cases hmethod : Message.method? m with
      | none => rw [hmethod] at hnamed; exact absurd rfl hnamed
      | some method => exact ⟨method, rfl⟩
    rw [hmethod, Option.getD_some] at hnamed
    obtain ⟨hexit, hcrash⟩ : method ≠ "exit" ∧ (before o n).options.crashOn ≠ some method := by
      change method ≠ "exit" ∧ o.crashOn ≠ some method
      simpa [ends, namesEnd, hmethod, hnamed] using hends
    unfold receive
    rw [hmethod, Option.getD_some, if_neg hnamed]
    dsimp only
    rw [if_neg hcrash, if_neg hexit]
    cases hid : m.get? "id" with
    | none =>
        obtain ⟨frames, n', hreaction, hgoes⟩ := onNotification_goes ⟨hmethod, hnamed, hid⟩
        exact ⟨frames, n', hreaction, hgoes.cons rfl rfl⟩
    | some id =>
        obtain ⟨frames, hreaction, hgoes⟩ := onRequest_goes ⟨hmethod, hnamed, hid⟩ hreach
        exact ⟨frames, n, hreaction, hgoes.cons rfl rfl⟩

/-- The message that the server ends at: nothing is written any more. -/
theorem receive_ends (s : Stub) (h : ends s.options m = true) :
    writes (s.receive m).2 = [] ∧ (s.receive m).2.any Effect.isExit = true := by
  cases hmethod : Message.method? m with
  | none => simp [ends, namesEnd, hmethod] at h
  | some method =>
      obtain ⟨hnamed, hlast⟩ : method ≠ "" ∧ (method = "exit" ∨ s.options.crashOn = some method) := by
        simpa [ends, namesEnd, hmethod, and_comm] using h
      unfold receive
      rw [hmethod, Option.getD_some, if_neg hnamed]
      by_cases hcrash : s.options.crashOn = some method
      · rw [if_pos hcrash]
        exact ⟨rfl, rfl⟩
      · rw [if_neg hcrash, if_pos (hlast.resolve_right hcrash)]
        exact ⟨rfl, rfl⟩

end Step

/-! ### All messages -/

section Run

variable {o : Options} {limit : Nat} {input left : Bytes} {ms : List Json}

theorem serveWith_reactions {ending : Frame.Ending} (htakes : Frame.Takes limit input ms left)
    (hend : Frame.EndsWith limit left ending)
    (hreach : ∀ m ∈ ms.takeWhile (!ends o ·), InReach o m) {n fuel : Nat}
    (hfuel : input.length < fuel) : ∃ frames,
      Reactions o n (ms.takeWhile (!ends o ·)) frames ∧
        writes (serveWith limit fuel (before o n) input) = frames.map Frame.write := by
  induction htakes generalizing n fuel with
  | nil input =>
      obtain ⟨fuel, rfl⟩ := Nat.exists_eq_succ_of_ne_zero (Nat.ne_zero_of_lt hfuel)
      refine ⟨[], .nil n, ?_⟩
      rw [serveWith]
      cases ending with
      | finished =>
          rw [show Frame.read input limit = .finished from hend]
          rfl
      | refused refusal =>
          obtain ⟨rest, hread⟩ := hend
          rw [hread]
          rfl
  | @cons input rest left m ms hread hrest ih =>
      obtain ⟨fuel, rfl⟩ := Nat.exists_eq_succ_of_ne_zero (Nat.ne_zero_of_lt hfuel)
      rw [serveWith, hread]
      dsimp only
      cases hends : ends o m with
      | true =>
          obtain ⟨hsilent, hexit⟩ := receive_ends (before o n) hends
          rw [if_pos hexit, List.takeWhile_cons_of_neg (by simp [hends])]
          exact ⟨[], .nil n, hsilent⟩
      | false =>
          rw [List.takeWhile_cons_of_pos (by simp [hends])] at hreach ⊢
          obtain ⟨hnow, hlater⟩ := List.forall_mem_cons.1 hreach
          obtain ⟨now, n', hreaction, hgoes⟩ := receive_goes (n := n) hends hnow
          have hless := (Frame.readsTo_of_read hread).length_lt _ _ rfl
          obtain ⟨later, hreactions, hwrites⟩ := ih hend hlater (n := n')
            (Nat.lt_of_lt_of_le hless (Nat.le_of_lt_succ hfuel))
          refine ⟨now ++ later, .cons hreaction hreactions, ?_⟩
          rw [hgoes.stays, if_neg Bool.false_ne_true, hgoes.state, writes_append, hgoes.writes,
            hwrites, List.map_append]

end Run

/-! ### Responses and calls apart -/

section Apart

variable {o : Options} {n n' : Nat} {m : Json} {frames : List Json}

theorem responds_responseId? {id response : Json} (h : Responds id response) :
    responseId? response = some id ∧ isCall response = false := by
  rcases h with ⟨result, rfl⟩ | ⟨code, text, rfl⟩
  · exact ⟨rfl, rfl⟩
  · exact ⟨rfl, rfl⟩

theorem isCall_of_mem_announcement {frame : Json} (h : frame ∈ announcement o n) :
    isCall frame = true := by
  rcases List.mem_append.1 h with hask | hlog
  · split at hask
    · rw [List.mem_singleton.1 hask]
      rfl
    · cases hask
  · obtain ⟨i, -, rfl⟩ := List.mem_map.1 hlog
    rfl

theorem responseId?_of_isCall {frame : Json} (h : isCall frame = true) : responseId? frame = none :=
  if_pos h

theorem Asks.answeredId? {method : String} {id : Json} (h : Asks m method id) : answeredId? o m =
    if method = lookupMethod ∧ o.mode = .hang then none else some id := by
  rw [Stub.answeredId?, h.calls, h.names]
  simp [h.ne_empty]

theorem answeredId?_of_nameless (h : m.get? "id" = none) : answeredId? o m = none := by
  unfold answeredId?
  split
  · rfl
  · split
    · rfl
    · exact h

/-- What is written on one message, apart by kind. -/
theorem Reaction.apart (h : Reaction o n m frames n') :
    frames.filterMap responseId? = (answeredId? o m).toList ∧
      frames.filter isCall = (if starts m then announcement o n else []) ∧
      n' = if starts m then n + 1 else n := by
  cases h with
  | @response method id response hasks hmode hresponse =>
      obtain ⟨hid, hcall⟩ := responds_responseId? hresponse
      have hnot : starts m = false := by simp [starts, hasks.names]
      rw [hasks.answeredId?, if_neg fun hboth => hmode hboth.1 hboth.2]
      simp [hid, hcall, hnot]
  | unanswered hasks hmode =>
      have hnot : starts m = false := by simp [starts, hasks.names]
      rw [hasks.answeredId?, if_pos ⟨rfl, hmode⟩]
      simp [hnot]
  | started hnotes =>
      have hstarts : starts m = true := by simp [starts, hnotes.calls, hnotes.nameless]
      rw [answeredId?_of_nameless hnotes.nameless, if_pos hstarts, if_pos hstarts]
      refine ⟨?_, ?_, rfl⟩
      · exact List.filterMap_eq_nil_iff.2 fun frame hframe =>
          responseId?_of_isCall (isCall_of_mem_announcement hframe)
      · exact List.filter_eq_self.2 fun frame hframe => isCall_of_mem_announcement hframe
  | @noted method hnotes hother =>
      have hnot : starts m = false := by simp [starts, hnotes.calls, hother]
      rw [answeredId?_of_nameless hnotes.nameless]
      simp [hnot]
  | unnamed h =>
      have hnone : answeredId? o m = none := by
        unfold Stub.answeredId?
        split
        · rfl
        next method hmethod => exact if_pos (.inl (h method hmethod))
      have hnot : starts m = false := by
        by_contra hstarts
        simp only [starts, Bool.not_eq_false, Bool.and_eq_true, decide_eq_true_eq] at hstarts
        exact absurd (h _ hstarts.1) (by decide)
      rw [hnone]
      simp [hnot]

theorem Reactions.apart {ms : List Json} (h : Reactions o n ms frames) :
    frames.filterMap responseId? = ms.filterMap (answeredId? o) ∧
      frames.filter isCall = (List.range' n (ms.countP starts)).flatMap (announcement o) := by
  induction h with
  | nil n => exact ⟨rfl, rfl⟩
  | @cons n n' m ms now later hnow hlater ih =>
      obtain ⟨hids, hcalls⟩ := ih
      obtain ⟨hid, hcall, rfl⟩ := hnow.apart
      constructor
      · rw [List.filterMap_append, hid, hids]
        cases hanswered : answeredId? o m <;> simp [hanswered]
      · rw [List.filter_append, hcall, hcalls]
        cases hstarts : starts m <;> simp [hstarts, List.range'_succ]

end Apart

/-- What the stub server writes, whatever it is told to do and whatever comes in. Up to the message
at which it ends, each message draws what `Reaction` says, in order. So the responses are to the
requests, one to each with its id, but for lookups when the server is to hang; and the only other
frames are announcements, one for each start of a session, counted from one. -/
theorem serve_reactions {o : Options} {input : Bytes} {limit : Nat}
    (hreach : ∀ m ∈ served o input limit, InReach o m) :
    ∃ frames, writes (serve o input limit) = frames.map Frame.write ∧
      Reactions o 1 (served o input limit) frames ∧
      frames.filterMap responseId? = (served o input limit).filterMap (answeredId? o) ∧
      frames.filter isCall
        = (List.range' 1 ((served o input limit).countP starts)).flatMap (announcement o) := by
  obtain ⟨left, htakes, hend⟩ := Frame.takes_messages input limit
  have hstart : before o 1 = { options := o } := by
    rw [before, ite_self]
  obtain ⟨frames, hreactions, hwrites⟩ :=
    serveWith_reactions htakes hend hreach (n := 1) (Nat.lt_succ_self input.length)
  rw [hstart] at hwrites
  exact ⟨frames, hwrites, hreactions, hreactions.apart⟩

/-- A server that answers with the place it is asked about. -/
def echoing : Options := { echoPosition := true, askConfiguration := true, flood := 1 }

/-- A session with an id that is null, one that is a text, and a request behind the end. -/
def session : List Json :=
  [.object [("id", .null), ("method", .string "initialize")],
    .object [("method", .string "initialized")],
    .object [("id", .string "a"), ("method", .string lookupMethod),
      ("params", .object [("position", .object [("character", .int 2), ("line", .int 1)])])],
    .object [("method", .string "exit")],
    .object [("id", .int 2), ("method", .string "late")]]

theorem serve_reactions_session :
    (∀ m ∈ served echoing (Frame.writeAll session), InReach echoing m) ∧
      ∃ frames : List Json, writes (serve echoing (Frame.writeAll session)) = frames.map Frame.write ∧
        (frames.filterMap responseId?).map Json.compact = ["null".toList, "\"a\"".toList] ∧
        (frames.filter isCall).length = 2 := by
  have hall : (served echoing (Frame.writeAll session)).all (fun m =>
      (place echoing ((m.get? "params").getD .null)).2.2 + 3 ≤ Location.highest) = true := by
    decide +kernel
  have hreach : ∀ m ∈ served echoing (Frame.writeAll session), InReach echoing m :=
    fun m hm _ _ => of_decide_eq_true (List.all_eq_true.1 hall m hm)
  obtain ⟨frames, hwrites, -, hids, hcalls⟩ := serve_reactions hreach
  refine ⟨hreach, frames, hwrites, ?_, ?_⟩
  · rw [hids]
    decide +kernel
  · rw [hcalls]
    decide +kernel

/-- A server that is to crash on the empty method, and a message that has it in front of a request. -/
def unnamedCrash : Options := { crashOn := some "" }

def unnamedSession : List Json :=
  [.object [("method", .string "")], .object [("id", .int 1), ("method", .string "x")]]

/-- The server does not end there: no message is in front of the first, and yet one is answered. -/
theorem serve_unnamedSession :
    (Options.ofArguments ["--crash-on", ""]).toOption.map (·.crashOn) = some (some "") ∧
      ((Frame.messages (Frame.writeAll unnamedSession)).takeWhile
          (!namesEnd unnamedCrash ·)).length = 0 ∧
      writes (serve unnamedCrash (Frame.writeAll unnamedSession))
        = [Frame.write (Message.answer (.int 1) .null)] := by
  decide +kernel

end Stub

end LookupBench
