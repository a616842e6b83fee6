import LookupBench.Proofs.Client.Closing
import LookupBench.Proofs.Client.Request
import LookupBench.Results.Bucket

/-!
# Requests that nobody answers

A request that is under way when the reader ends finds that nobody will answer, whatever it was about
to do. One that is started later waits until its limit is reached, unless the writer is gone as well;
so a lookup that is started later counts as one that was not answered in time.
-/

namespace LookupBench

open Relation

/-- Without a reader nobody is answered or woken any more. -/
theorem sameWaiters_of_moves {c c' : Client} (h : ReflTransGen WorkerMove c c')
    (hreading : c.reading = false) : c'.reading = false ∧ c.SameWaiters c' := by
  induction h with
  | refl => exact ⟨hreading, .refl c⟩
  | tail _ hmove ih =>
      obtain ⟨hstopped, hsame⟩ := ih
      cases hmove with
      | aside haside => exact ⟨haside.reading hstopped, hsame.trans haside.sameWaiters⟩
      | receive m hreading' =>
          rw [hstopped] at hreading'
          cases hreading'
      | finish hreading' =>
          rw [hstopped] at hreading'
          cases hreading'

namespace Session

variable {σ : Type} {s : Surroundings σ} {x : σ × Client}

/-- What a request finds when its waiter is registered and it is about to queue its message. -/
def queueing (s : Surroundings σ) (x : σ × Client) : σ × Client :=
  s.settle ((s.settle x).1, (s.settle x).2.register.2)

/-- Without a reader a request that the writer takes waits until its limit is reached. -/
theorem request_of_stopped (hlawful : s.Lawful) (method : String) (params : Json)
    (limit : Duration) (hreading : x.2.reading = false) (hanswers : x.2.boxes.answers = []) :
    ∃ tail, (request s method params limit x).1
      = .error (if (queueing s x).2.writing then .timeout x.2.name method limit tail
          else .writerClosed x.2.name method) := by
  obtain ⟨hstopped, hsame⟩ := sameWaiters_of_moves (hlawful.settle x) hreading
  rw [request_eq, queueing]
  dsimp only
  generalize s.settle x = y at *
  have hstopped' : (y.1, y.2.register.2).2.reading = false := hstopped
  obtain ⟨hstopped'', hsame'⟩ := sameWaiters_of_moves (hlawful.settle _) hstopped'
  generalize s.settle (y.1, y.2.register.2) = z at *
  have hname : z.2.name = x.2.name := hsame'.name.trans hsame.name
  cases hwriting : z.2.writing with
  | false =>
      have hsend : z.2.send (Message.request y.2.nextId method params)
          = .error (.writerClosed z.2.name method) := by
        rw [Client.send, hwriting, Exchange.label_request]
        rfl
      rw [hsend]
      exact ⟨"", by rw [hname]; rfl⟩
  | true =>
      obtain ⟨c, hsend⟩ : ∃ c, z.2.send (Message.request y.2.nextId method params) = .ok c := by
        rw [Client.send, hwriting]
        exact ⟨_, rfl⟩
      rw [hsend]
      dsimp only
      have hqueued := Client.sameWaiters_of_send hsend
      have hstill : c.reading = false :=
        (Exchange.CallerAside.reading (.notify hsend)).trans hstopped''
      obtain ⟨hstill', hlater⟩ := sameWaiters_of_moves (hlawful.settle (z.1, c)) hstill
      obtain ⟨-, hlast⟩ := sameWaiters_of_moves (hlawful.await y.2.nextId limit _) hstill'
      generalize s.await y.2.nextId limit (s.settle (z.1, c)) = w at *
      have hall := hsame'.trans (hqueued.trans (hlater.trans hlast))
      -- the waiter that was registered is still on the list, and nothing was handed over
      have hlook : w.2.look y.2.nextId = .waiting := by
        have hnone : w.2.boxes.answers = [] := (hall.answers.trans hsame.answers).trans hanswers
        have hpending : y.2.nextId ∈ w.2.boxes.pending := by
          rw [hall.pending]
          simp [Client.register]
        simp [Client.look, hnone, hpending]
      refine ⟨w.2.tail.text Client.tailLines, ?_⟩
      rw [Client.outcome, hlook, Client.conclude, hall.name.trans hsame.name]
      rfl

theorem lookup_of_error {uri : String} {position : Position} {limit : Duration}
    {failure : ClientFailure}
    (h : (request s "textDocument/definition" (Message.position uri position) limit x).1
      = .error failure) :
    ∃ latency, (lookup s uri position limit x).1 = .ok (.failure failure (some latency)) := by
  generalize hy : request s "textDocument/definition" (Message.position uri position) limit x = y
    at h
  obtain ⟨outcome, y⟩ := y
  obtain rfl : outcome = .error failure := h
  unfold lookup
  rw [bind_of_ok (get_eq x)]
  obtain ⟨outside, c⟩ := x
  dsimp only
  rw [bind_of_ok (tryCatch_of_error (bind_of_error hy _) _), bind_of_ok (get_eq y)]
  exact ⟨_, rfl⟩

/-- Without a reader a lookup counts as one that reached its limit, if its message was taken. -/
theorem timeouts_of_stopped (hlawful : s.Lawful) (uri : String) (position : Position)
    (limit : Duration) (hreading : x.2.reading = false) (hanswers : x.2.boxes.answers = []) :
    ∃ result, (lookup s uri position limit x).1 = .ok result ∧ ∀ anyValid bucket,
      (Bucket.record result anyValid bucket).timeouts
        = bucket.timeouts + Bucket.one (queueing s x).2.writing := by
  obtain ⟨tail, houtcome⟩ := request_of_stopped hlawful "textDocument/definition"
    (Message.position uri position) limit hreading hanswers
  obtain ⟨latency, hlookup⟩ := lookup_of_error houtcome
  refine ⟨_, hlookup, fun anyValid bucket => ?_⟩
  cases (queueing s x).2.writing <;> rfl

end Session

namespace Exchange

/-- How requests come back that nobody answered, in a history from a client `c₀` and in the state
that it leads to. -/
structure Unanswered (c₀ : Client) (es : List Event) (s : Exchange) : Prop where
  /-- The caller need not wait any more as soon as the reader ended since the start of its request;
  until then it has to. -/
  found : ∀ id, s.phase.id? = some id → Outstanding es id →
    (EndedSince es id ∧ s.sight id = .closed) ∨ ¬ EndedSince es id ∧ s.sight id = .waiting
  /-- A request is refused if the writer is gone, and given up if the reader ended since its start.
  Any other reaches its limit. -/
  settled : ∀ e s' id method outcome, Step s e s' → s'.phase = .settled id method outcome →
    s.phase ≠ .settled id method outcome → Outstanding es id →
      (s.client.writing = false ∧ outcome = .error (.writerClosed c₀.name method)) ∨
        (EndedSince es id ∧ outcome = .error (.closed c₀.name method)) ∨
        ¬ EndedSince es id ∧ ∃ limit tail, outcome = .error (.timeout c₀.name method limit tail)
  /-- A request that is started after the end of the reader is not answered, and is not given up
  either: the writer refuses it, or it reaches its limit. -/
  missed : ∀ before id outcome after, es = before ++ .returned id outcome :: after →
    EndedBefore before id →
      ∃ method, .started id method ∈ before ∧ Outstanding before id ∧ Missed c₀.name method outcome
  /-- A lookup after the end of the reader counts as one that reached its limit, unless the writer
  is gone when it has a message for it. -/
  counted : s.phase = .idle → .ended ∈ es → ∀ (σ : Type) (sur : Surroundings σ), sur.Lawful →
    ∀ uri position limit outside, ∃ result,
      (Session.lookup sur uri position limit (outside, s.client)).1 = .ok result ∧
        ∀ anyValid bucket, (Bucket.record result anyValid bucket).timeouts
          = bucket.timeouts + Bucket.one (Session.queueing sur (outside, s.client)).2.writing

/-- Requests that nobody answers, after any moves in any order. -/
theorem unanswered_of_run (name : String) (root : Path) (trace : Bool) (processId : Nat)
    {es : List Event} {s : Exchange} (hrun : Run (.opening name root trace processId) es s) :
    Unanswered (Exchange.opening name root trace processId).client es s := by
  have haccount := Account.of_run name root trace processId hrun
  have hclosing := Closing.of_run name root trace processId hrun
  constructor
  · exact fun id hcurrent hout => sight_of_outstanding hclosing haccount hcurrent hout
  · exact fun e s' id method outcome hstep hphase hnew hout =>
      settled_of_outstanding hclosing haccount hstep hphase hnew hout
  · rintro before id outcome after rfl hbefore
    -- up to the return the history is one of its own, and the return is its last move
    obtain ⟨s', hrun'⟩ := hrun.cut (List.append_cons before _ after)
    obtain ⟨s₁, hrun₁, hstep⟩ := hrun'.last
    have haccount₁ := Account.of_run name root trace processId hrun₁
    have hclosing₁ := Closing.of_run name root trace processId hrun₁
    cases hstep with
    | @retire id method outcome hphase =>
        have hcurrent : s₁.phase.request? = some (id, method) := by
          rw [hphase]
          rfl
        have hmissed := hclosing₁.settled id method outcome hphase hbefore
        rw [haccount₁.name] at hmissed
        refine ⟨method, (haccount₁.current id method hcurrent).1, ?_, hmissed⟩
        exact hclosing₁.outstanding haccount₁ (congrArg (Option.map Prod.fst) hcurrent) hbefore
  · intro hphase hended σ sur hlawful uri position limit outside
    exact Session.timeouts_of_stopped hlawful uri position limit (hclosing.stopped hended).1
      (haccount.idle_waiters hphase).2

/-! ### A late start -/

/-- The reader ends, and then a request is started. -/
def lateStart : List Event :=
  [.ended, .started 1 "textDocument/definition", .other, .other,
    .returned 1 (.error (.timeout "a" "textDocument/definition" ⟨500000000⟩ ""))]

theorem exists_run_lateStart : ∃ s, Run (.opening "a" [] false 1) lateStart s := by
  have h₀ : Run (.opening "a" [] false 1) [] _ := .nil
  have h₁ := h₀.snoc (.finish _ rfl rfl)
  have h₂ := h₁.snoc (.start _ "textDocument/definition" .null rfl)
  have h₃ := h₂.snoc (.post _ rfl rfl)
  have h₄ := h₃.snoc (.settle _ ⟨500000000⟩ rfl)
  have h₅ := h₄.snoc (.retire _ rfl)
  exact ⟨_, h₅⟩

theorem unanswered_lateStart : ∃ s, Run (.opening "a" [] false 1) lateStart s ∧
    Unanswered (Exchange.opening "a" [] false 1).client lateStart s := by
  obtain ⟨s, hrun⟩ := exists_run_lateStart
  exact ⟨s, hrun, unanswered_of_run "a" [] false 1 hrun⟩

/-- A request can reach its limit although the reader ended long before. -/
theorem timeout_after_end : ∃ s, Run (.opening "a" [] false 1) lateStart s ∧
    ∃ before limit tail, EndedBefore before 1 ∧ Outstanding before 1 ∧
      lateStart = before ++
        [.returned 1 (.error (.timeout "a" "textDocument/definition" limit tail))] := by
  obtain ⟨s, hrun⟩ := exists_run_lateStart
  refine ⟨s, hrun, lateStart.dropLast, ⟨500000000⟩, "", ?_, ?_, rfl⟩
  · exact ⟨[.ended], "textDocument/definition", [.other, .other], rfl, by simp⟩
  · exact ⟨[.ended], "textDocument/definition", [.other, .other], rfl, by simp, by simp⟩

end Exchange

end LookupBench
