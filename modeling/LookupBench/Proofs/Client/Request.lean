import LookupBench.Client.Session
import LookupBench.Proofs.Client.Correlation
import Mathlib.Logic.Relation

/-!
# Requests of sessions

The request of a session, in surroundings that touch a client only through its writer and its reader,
is a piece of a run of the moves of an exchange. So what holds after any moves in any order holds for
the requests that sessions make.
-/

namespace LookupBench

open Relation

/-- One move of the writer or the reader. -/
inductive WorkerMove : Client → Client → Prop where
  | aside {c c' : Client} (haside : Exchange.WorkerAside c c') : WorkerMove c c'
  | receive {c : Client} (m : Json) (hreading : c.reading = true) : WorkerMove c (c.receive m)
  | finish {c : Client} (hreading : c.reading = true) : WorkerMove c c.endOfInput

/-- What goes on around a caller changes the client by the moves of its writer and its reader. -/
structure Surroundings.Lawful {σ : Type} (s : Surroundings σ) : Prop where
  settle : ∀ x, ReflTransGen WorkerMove x.2 (s.settle x).2
  await : ∀ id limit x, ReflTransGen WorkerMove x.2 (s.await id limit x).2
  rest : ∀ duration x, ReflTransGen WorkerMove x.2 (s.rest duration x).2
  finish : ∀ x, ReflTransGen WorkerMove x.2 (s.finish x).2

theorem WorkerMove.nextId_eq {c c' : Client} (h : WorkerMove c c') : c'.nextId = c.nextId := by
  cases h with
  | aside haside => exact haside.sameWaiters.nextId
  | receive => rfl
  | finish => rfl

theorem nextId_eq_of_moves {c c' : Client} (h : ReflTransGen WorkerMove c c') :
    c'.nextId = c.nextId := by
  induction h with
  | refl => rfl
  | tail _ hmove ih => exact hmove.nextId_eq.trans ih

/-! ### Pieces of sessions -/

namespace Session

variable {σ α β : Type} {m : Session σ α} {x y : σ × Client}

theorem bind_of_ok {a : α} (h : m x = (.ok a, y)) (f : α → Session σ β) : (m >>= f) x = f a y := by
  simp only [bind, ExceptT.bind, ExceptT.mk, StateT.bind, h, ExceptT.bindCont]

theorem bind_of_error {failure : ClientFailure} (h : m x = (.error failure, y))
    (f : α → Session σ β) : (m >>= f) x = (.error failure, y) := by
  simp only [bind, ExceptT.bind, ExceptT.mk, StateT.bind, h, ExceptT.bindCont]
  rfl

theorem tryCatch_of_ok {a : α} (h : m x = (.ok a, y)) (f : ClientFailure → Session σ α) :
    tryCatch m f x = (.ok a, y) := by
  simp only [tryCatch, tryCatchThe, MonadExceptOf.tryCatch, ExceptT.tryCatch, ExceptT.mk, bind,
    StateT.bind, h]
  rfl

theorem tryCatch_of_error {failure : ClientFailure} (h : m x = (.error failure, y))
    (f : ClientFailure → Session σ α) : tryCatch m f x = f failure y := by
  simp only [tryCatch, tryCatchThe, MonadExceptOf.tryCatch, ExceptT.tryCatch, ExceptT.mk, bind,
    StateT.bind, h]

theorem yield_eq (s : Surroundings σ) (x : σ × Client) : yield s x = (.ok (), s.settle x) := rfl

theorem get_eq (x : σ × Client) : (get : Session σ (σ × Client)) x = (.ok x, x) := rfl

theorem move_eq (f : Client → α × Client) (x : σ × Client) :
    move f x = (.ok (f x.2).1, (x.1, (f x.2).2)) := rfl

theorem change_eq (f : Client → Client) (x : σ × Client) :
    change f x = (.ok (), (x.1, f x.2)) := rfl

theorem modify_eq (f : σ × Client → σ × Client) (x : σ × Client) :
    (modify f : Session σ PUnit) x = (.ok (), f x) := rfl

theorem liftExcept_eq (outcome : Except ClientFailure α) (x : σ × Client) :
    request.liftExcept outcome x = (outcome, x) := by
  cases outcome <;> rfl

theorem send_eq (s : Surroundings σ) (message : Json) (x : σ × Client) :
    send s message x = match (s.settle x).2.send message with
      | .ok c => (.ok (), s.settle ((s.settle x).1, c))
      | .error failure => (.error failure, s.settle x) := by
  unfold send
  rw [bind_of_ok (yield_eq s x), bind_of_ok (get_eq _)]
  generalize s.settle x = y
  obtain ⟨outside, c⟩ := y
  dsimp only
  cases c.send message with
  | ok c => rfl
  | error failure => rfl

/-- A request, move by move. -/
theorem request_eq (s : Surroundings σ) (method : String) (params : Json) (limit : Duration)
    (x : σ × Client) :
    request s method params limit x =
      let y := s.settle x
      let id := y.2.nextId
      let z := s.settle (y.1, y.2.register.2)
      match z.2.send (Message.request id method params) with
      | .error failure => (.error failure, (z.1, z.2.retire id))
      | .ok c =>
        let w := s.await id limit (s.settle (z.1, c))
        (w.2.outcome id method limit, ((s.settle w).1, (s.settle w).2.retire id)) := by
  unfold request
  rw [bind_of_ok (yield_eq s x), bind_of_ok (move_eq _ _)]
  have hsend := send_eq s (Message.request (s.settle x).2.nextId method params)
    ((s.settle x).1, (s.settle x).2.register.2)
  dsimp only [Client.register] at hsend ⊢
  split at hsend
  next c h =>
    rw [h, bind_of_ok (tryCatch_of_ok hsend _), bind_of_ok (modify_eq _ _), bind_of_ok (get_eq _),
      bind_of_ok (yield_eq _ _), bind_of_ok (change_eq _ _), liftExcept_eq]
  next failure h =>
    rw [h, bind_of_error ((tryCatch_of_error hsend _).trans (bind_of_ok (change_eq _ _) _))]

end Session

namespace Exchange

/-! ### Moves of the workers within a run -/

variable {name : String} {root : Path} {trace : Bool} {processId : Nat}
  {es : List Event} {phase : Phase} {c c' : Client}

/-- A history leads to a client and a phase, and the hand of the reader is empty. -/
def Rests (s₀ : Exchange) (es : List Event) (phase : Phase) (c : Client) : Prop :=
  ∃ arrived, Run s₀ es { client := c, phase, arrived }

/-- No request starts or comes back. -/
def Quiet (es : List Event) : Prop := starts es = [] ∧ returns es = []

theorem Quiet.append {es fs : List Event} (h : Quiet es) (h' : Quiet fs) : Quiet (es ++ fs) := by
  constructor
  · rw [starts_append, h.1, h'.1, List.append_nil]
  · rw [returns_append, h.2, h'.2, List.append_nil]

theorem Rests.worker (h : Rests (opening name root trace processId) es phase c)
    (hmove : WorkerMove c c') :
    ∃ fs, Rests (opening name root trace processId) (es ++ fs) phase c' ∧ Quiet fs := by
  obtain ⟨n, hrun⟩ := h
  cases hmove with
  | aside haside => exact ⟨[.other], ⟨n, hrun.snoc (.workerAside _ haside)⟩, rfl, rfl⟩
  | finish hreading => exact ⟨[.ended], ⟨n, hrun.snoc (.finish _ hreading rfl)⟩, rfl, rfl⟩
  | receive m hreading =>
      by_cases hwaited : ∃ id, Message.answered? m = some id ∧ id ∈ c.boxes.pending
      · obtain ⟨id, hanswer, hpending⟩ := hwaited
        have hthere : phase.id? = some id := by
          rcases (Account.of_run name root trace processId hrun).pending with hnil | hone
          · rw [hnil] at hpending
            cases hpending
          · obtain ⟨id', hcurrent, hlist, -⟩ := hone
            rw [hlist] at hpending
            rw [List.mem_singleton.1 hpending]
            exact hcurrent
        have hclaim := hrun.snoc (.claim _ hreading rfl hanswer hpending)
        have hgiven := hclaim.snoc (.handOver _ rfl hthere)
        refine ⟨[.received m, .handed n id], ⟨n + 1, ?_⟩, rfl, rfl⟩
        rw [Client.receive, Mailboxes.route_eq_of_mem _ hanswer hpending]
        simpa using hgiven
      · have hnone : ∀ id, Message.answered? m = some id → id ∉ c.boxes.pending :=
          fun id hanswer hmem => hwaited ⟨id, hanswer, hmem⟩
        exact ⟨[.received m], ⟨n + 1, hrun.snoc (.route _ hreading rfl hnone)⟩, rfl, rfl⟩

theorem Rests.workers (h : Rests (opening name root trace processId) es phase c)
    (hmoves : ReflTransGen WorkerMove c c') :
    ∃ fs, Rests (opening name root trace processId) (es ++ fs) phase c' ∧ Quiet fs := by
  induction hmoves with
  | refl => exact ⟨[], by rwa [List.append_nil], rfl, rfl⟩
  | tail _ hmove ih =>
      obtain ⟨fs, hrests, hquiet⟩ := ih
      obtain ⟨gs, hrests', hquiet'⟩ := hrests.worker hmove
      exact ⟨fs ++ gs, by rwa [← List.append_assoc], hquiet.append hquiet'⟩

/-! ### A whole request -/

variable {σ : Type} {s : Surroundings σ}

theorem Rests.start (h : Rests (opening name root trace processId) es .idle c) (method : String)
    (params : Json) :
    Rests (opening name root trace processId) (es ++ [.started c.nextId method])
      (.registered c.nextId method params) c.register.2 := by
  obtain ⟨n, hrun⟩ := h
  exact ⟨n, hrun.snoc (.start _ method params rfl)⟩

theorem Rests.retire {id : Nat} {method : String} {outcome : Except ClientFailure Json}
    (h : Rests (opening name root trace processId) es (.settled id method outcome) c) :
    Rests (opening name root trace processId) (es ++ [.returned id outcome]) .idle (c.retire id) := by
  obtain ⟨n, hrun⟩ := h
  exact ⟨n, hrun.snoc (.retire _ rfl)⟩

theorem Rests.post {id : Nat} {method : String} {params : Json}
    (h : Rests (opening name root trace processId) es (.registered id method params) c)
    (hsend : c.send (Message.request id method params) = .ok c') :
    Rests (opening name root trace processId) (es ++ [.other]) (.waiting id method) c' := by
  obtain ⟨n, hrun⟩ := h
  exact ⟨n, hrun.snoc (.post _ rfl hsend)⟩

theorem Rests.refuse {id : Nat} {method : String} {params : Json} {failure : ClientFailure}
    (h : Rests (opening name root trace processId) es (.registered id method params) c)
    (hsend : c.send (Message.request id method params) = .error failure) :
    Rests (opening name root trace processId) (es ++ [.other])
      (.settled id method (.error failure)) c := by
  obtain ⟨n, hrun⟩ := h
  exact ⟨n, hrun.snoc (.refuse _ rfl hsend)⟩

/-- With its hand empty the reader owes no answer, so the caller settles on what it finds. -/
theorem Rests.settle {id : Nat} {method : String}
    (h : Rests (opening name root trace processId) es (.waiting id method) c) (limit : Duration) :
    Rests (opening name root trace processId) (es ++ [.other])
      (.settled id method (c.outcome id method limit)) c := by
  obtain ⟨n, hrun⟩ := h
  have hsight : ({ client := c, phase := .waiting id method, arrived := n } : Exchange).sight id
      = c.look id := by
    unfold sight
    cases c.look id <;> rfl
  have hsettled := hrun.snoc (.settle _ limit rfl)
  rw [hsight] at hsettled
  exact ⟨n, hsettled⟩

/-- A request of a session is a piece of a run: it starts once, under the next number, and comes back
once, with the outcome that the session has. -/
theorem request_rests (hlawful : s.Lawful) (method : String) (params : Json) (limit : Duration)
    (x : σ × Client) (h : Rests (opening name root trace processId) es .idle x.2) :
    ∃ before since, Quiet before ∧ Quiet since ∧
      Rests (opening name root trace processId)
        (es ++ (before ++ .started x.2.nextId method :: since ++
          [.returned x.2.nextId (Session.request s method params limit x).1]))
        .idle (Session.request s method params limit x).2.2 := by
  rw [Session.request_eq, ← nextId_eq_of_moves (hlawful.settle x)]
  dsimp only
  generalize hy : s.settle x = y
  have hmoves := hlawful.settle x
  rw [hy] at hmoves
  obtain ⟨before, h₁, hquiet₁⟩ := h.workers hmoves
  have h₂ := h₁.start method params
  generalize hz : s.settle (y.1, y.2.register.2) = z
  have hmoves := hlawful.settle (y.1, y.2.register.2)
  rw [hz] at hmoves
  obtain ⟨between, h₃, hquiet₂⟩ := h₂.workers hmoves
  split
  next failure hsend =>
    have h₄ := (h₃.refuse hsend).retire
    refine ⟨before, between ++ [.other], hquiet₁, hquiet₂.append ⟨rfl, rfl⟩, ?_⟩
    simpa using h₄
  next c hsend =>
    have h₄ := h₃.post hsend
    obtain ⟨early, h₅, hquiet₃⟩ := h₄.workers (hlawful.settle (z.1, c))
    obtain ⟨late, h₆, hquiet₄⟩ := h₅.workers (hlawful.await y.2.nextId limit (s.settle (z.1, c)))
    have h₇ := h₆.settle limit
    obtain ⟨last, h₈, hquiet₅⟩ := h₇.workers (hlawful.settle _)
    have h₉ := h₈.retire
    refine ⟨before, between ++ [.other] ++ early ++ late ++ [.other] ++ last, hquiet₁, ?_, ?_⟩
    · exact ((((hquiet₂.append ⟨rfl, rfl⟩).append hquiet₃).append hquiet₄).append ⟨rfl, rfl⟩).append
        hquiet₅
    · simpa using h₉

/-- An answered request of a session returns the contents of a message that answers it and that
arrived while it was outstanding. -/
theorem request_answered (hlawful : s.Lawful) (method : String) (params : Json) (limit : Duration)
    (x : σ × Client) (h : Rests (opening name root trace processId) es .idle x.2)
    (hisAnswer : IsAnswer (Session.request s method params limit x).1) :
    ∃ since arrival m, AnsweredBy (es ++ since) x.2.nextId arrival m ∧
      (Session.request s method params limit x).1
        = (opening name root trace processId).client.result method m := by
  obtain ⟨before, since, -, -, n, hrun⟩ := request_rests hlawful method params limit x h
  have haccount := Account.of_run name root trace processId hrun
  have hcut : es ++ (before ++ .started x.2.nextId method :: since ++
      [.returned x.2.nextId (Session.request s method params limit x).1])
      = (es ++ before ++ .started x.2.nextId method :: since) ++
        .returned x.2.nextId (Session.request s method params limit x).1 :: [] := by simp
  obtain ⟨method', arrival, m, hstart, hanswer, -, hresult⟩ :=
    haccount.returned _ _ _ _ hcut hisAnswer
  obtain ⟨before', since', hplace⟩ := List.append_of_mem hstart
  have honce : (starts (es ++ before ++ .started x.2.nextId method :: since)).Nodup := by
    have hall := haccount.starts_nodup
    rw [hcut, starts_append] at hall
    exact (List.nodup_append.1 hall).1
  obtain ⟨-, rfl, -⟩ := start_unique honce hplace
  exact ⟨before ++ .started x.2.nextId method :: since, arrival, m,
    by rwa [← List.append_assoc], hresult⟩

end Exchange

end LookupBench
