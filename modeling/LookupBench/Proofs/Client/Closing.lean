import LookupBench.Proofs.Client.Correlation

/-!
# Waiters at the end of the reader

At its end the reader takes everybody off the list of waiters, and does so once. So a request that
was not answered is on the list if and only if the reader did not end since its start. One that is
started later stays there, and nothing that could take it off arrives any more.
-/

namespace LookupBench

/-- The reader came to its end after the start of a request. -/
def EndedSince (es : List Event) (id : Nat) : Prop :=
  ∃ before method since, es = before ++ .started id method :: since ∧ Event.ended ∈ since

/-- The reader came to its end before the start of a request. -/
def EndedBefore (es : List Event) (id : Nat) : Prop :=
  ∃ before method since, es = before ++ .started id method :: since ∧ Event.ended ∈ before

/-! ### Histories -/

section Histories

variable {es : List Event} {e : Event} {id : Nat}

theorem endedSince_snoc_iff (hstarts : starts [e] = []) :
    EndedSince (es ++ [e]) id ↔ EndedSince es id ∨ e = .ended ∧ id ∈ starts es := by
  constructor
  · rintro ⟨before, method, since, heq, hended⟩
    obtain ⟨since, rfl, rfl⟩ := cut_of_snoc hstarts heq
    rcases List.mem_append.1 hended with hmem | hmem
    · exact .inl ⟨before, method, since, rfl, hmem⟩
    · exact .inr ⟨(List.mem_singleton.1 hmem).symm, by simp⟩
  · rintro (⟨before, method, since, rfl, hended⟩ | ⟨rfl, hstart⟩)
    · exact ⟨before, method, since ++ [e], by simp, List.mem_append_left _ hended⟩
    · obtain ⟨method, hmem⟩ := LookupBench.mem_starts.1 hstart
      obtain ⟨before, since, rfl⟩ := List.append_of_mem hmem
      exact ⟨before, method, since ++ [.ended], by simp, by simp⟩

theorem EndedBefore.of_snoc (hstarts : starts [e] = []) (h : EndedBefore (es ++ [e]) id) :
    EndedBefore es id := by
  obtain ⟨before, method, since, heq, hended⟩ := h
  obtain ⟨since, rfl, rfl⟩ := cut_of_snoc hstarts heq
  exact ⟨before, method, since, rfl, hended⟩

end Histories

namespace Exchange

variable {es : List Event} {s s' : Exchange} {e : Event} {c₀ : Client}

/-! ### The account of the waiters -/

/-- What a request comes back with that was started after the end of the reader. -/
def Missed (name method : String) (outcome : Except ClientFailure Json) : Prop :=
  outcome = .error (.writerClosed name method) ∨
    ∃ limit tail, outcome = .error (.timeout name method limit tail)

/-- The waiters of a state in terms of the history that led to it. -/
structure Closing (es : List Event) (s : Exchange) : Prop where
  stopped : .ended ∈ es → s.client.reading = false ∧ s.hand = none
  final : ∀ before after, es = before ++ .ended :: after →
    .ended ∉ after ∧ ∀ m, .received m ∉ after
  listed : ∀ id, s.phase.id? = some id → Outstanding es id →
    (id ∈ s.client.boxes.pending ↔ ¬ EndedSince es id)
  settled : ∀ id method outcome, s.phase = .settled id method outcome → EndedBefore es id →
    Missed s.client.name method outcome

theorem WorkerAside.reading {c c' : Client} (h : WorkerAside c c') (hreading : c.reading = false) :
    c'.reading = false := by
  cases h with
  | write hnext =>
      unfold Client.nextOutbound at hnext
      split at hnext <;> cases hnext
      exact hreading
  | stopWriting => exact hreading
  | stopReading => rfl
  | hear bytes => exact hreading
  | endOfErrors => exact hreading

theorem CallerAside.reading {c c' : Client} (h : CallerAside c c') : c'.reading = c.reading := by
  cases h with
  | notify hsend =>
      unfold Client.send at hsend
      split at hsend <;> cases hsend
      rfl
  | collect => rfl
  | close => unfold Client.close; split <;> rfl

namespace Closing

theorem opening (name : String) (root : Path) (trace : Bool) (processId : Nat) :
    Closing [] (opening name root trace processId) := by
  constructor <;> simp [Exchange.opening, Phase.id?, Phase.request?]

/-- What comes after the end of the reader, where it ends and hears messages only at work. -/
theorem final_snoc (h : Closing es s)
    (hwork : (e = .ended ∨ ∃ m, e = .received m) → s.client.reading = true) :
    ∀ before after, es ++ [e] = before ++ .ended :: after →
      .ended ∉ after ∧ ∀ m, .received m ∉ after := by
  intro before after heq
  rcases snoc_cut heq with ⟨-, -, rfl⟩ | ⟨after', rfl, rfl⟩
  · simp
  · have hidle : ¬ (e = .ended ∨ ∃ m, e = .received m) := fun he => by
      rw [(h.stopped (by simp)).1] at hwork
      cases hwork he
    obtain ⟨hended, hreceived⟩ := h.final before after' rfl
    obtain ⟨hne, hnone⟩ := not_or.1 hidle
    constructor
    · simpa [hended] using Ne.symm hne
    · intro m hmem
      rcases List.mem_append.1 hmem with hmem | hmem
      · exact hreceived m hmem
      · exact hnone ⟨m, (List.mem_singleton.1 hmem).symm⟩

/-- The reader does not end a second time. -/
theorem not_endedSince {id : Nat} (h : Closing es s) (honce : (starts es).Nodup)
    (hbefore : EndedBefore es id) : ¬ EndedSince es id := by
  rintro ⟨before, method, since, rfl, hended⟩
  obtain ⟨before', method', since', heq, hended'⟩ := hbefore
  obtain ⟨rfl, -, -⟩ := start_unique honce heq
  obtain ⟨p, r, rfl⟩ := List.append_of_mem hended'
  exact (h.final p (r ++ .started id method :: since) (by simp)).1 (by simp [hended])

/-- No request is answered that was started after the end of the reader. -/
theorem outstanding (h : Closing es s) (haccount : Account c₀ es s) {id : Nat}
    (hcurrent : s.phase.id? = some id) (hbefore : EndedBefore es id) : Outstanding es id := by
  obtain ⟨before, method, since, rfl, hended⟩ := hbefore
  have hreturned : id ∉ returns (before ++ .started id method :: since) := by
    obtain ⟨⟨id', method'⟩, hrequest, rfl⟩ := Option.map_eq_some_iff.1 hcurrent
    exact (haccount.current id' method' hrequest).2
  refine ⟨before, method, since, rfl, fun outcome hmem => ?_, fun m hmem => ?_⟩
  · exact hreturned (mem_returns.2 ⟨outcome, by simp [hmem]⟩)
  · obtain ⟨p, r, rfl⟩ := List.append_of_mem hended
    exact absurd (by simp [hmem]) ((h.final p (r ++ .started id method :: since) (by simp)).2 m)

/-- An event that neither starts a request nor ends the reader, where nobody is listed or taken off
the list who goes on waiting. -/
theorem carry (h : Closing es s) (hstarts : starts [e] = []) (hended : e ≠ .ended)
    (hwork : ∀ m, e = .received m → s.client.reading = true)
    (hname : s'.client.name = s.client.name)
    (hstopped : s.client.reading = false → s.hand = none →
      s'.client.reading = false ∧ s'.hand = none)
    (hid : ∀ id, s'.phase.id? = some id → s.phase.id? = some id)
    (hpending : ∀ id, s'.phase.id? = some id →
      (∀ m, e = .received m → Message.answered? m ≠ some id) →
        (id ∈ s'.client.boxes.pending ↔ id ∈ s.client.boxes.pending))
    (hsettled : ∀ id method outcome, s'.phase = .settled id method outcome → EndedBefore es id →
      Missed s.client.name method outcome) : Closing (es ++ [e]) s' := by
  have hmem : .ended ∈ es ++ [e] → .ended ∈ es := by
    intro h
    rcases List.mem_append.1 h with h | h
    · exact h
    · exact absurd (List.mem_singleton.1 h).symm hended
  constructor
  · intro hends
    obtain ⟨hreading, hhand⟩ := h.stopped (hmem hends)
    exact hstopped hreading hhand
  · refine h.final_snoc ?_
    rintro (hend | ⟨m, hreceived⟩)
    · exact absurd hend hended
    · exact hwork m hreceived
  · intro id hcurrent hout
    obtain ⟨hout', hreceived⟩ := hout.of_snoc hstarts
    rw [hpending id hcurrent hreceived, h.listed id (hid id hcurrent) hout',
      endedSince_snoc_iff hstarts]
    simp [hended]
  · intro id method outcome hphase hbefore
    rw [hname]
    exact hsettled id method outcome hphase (hbefore.of_snoc hstarts)

theorem start (h : Closing es s) (haccount : Account c₀ es s) (method : String) (params : Json) :
    Closing (es ++ [.started s.client.nextId method])
      { s with
        client := s.client.register.2
        phase := .registered s.client.nextId method params } := by
  constructor
  · intro hends
    rcases List.mem_append.1 hends with hmem | hmem
    · exact h.stopped hmem
    · cases List.mem_singleton.1 hmem
  · refine h.final_snoc ?_
    rintro (hend | ⟨m, hreceived⟩)
    · cases hend
    · cases hreceived
  · intro id hcurrent _
    obtain rfl : s.client.nextId = id := Option.some.inj hcurrent
    simp only [Client.register, List.mem_append, List.mem_singleton, or_true, true_iff]
    -- the number is new, so the start is the last event
    rintro ⟨before, method', since, heq, hended⟩
    rcases snoc_cut heq with ⟨-, -, rfl⟩ | ⟨since', -, rfl⟩
    · cases hended
    · exact Nat.lt_irrefl _ (haccount.starts_lt s.client.nextId (by simp))
  · intro id method' outcome hphase
    cases hphase

theorem finish (h : Closing es s) (hreading : s.client.reading = true) (hhand : s.hand = none) :
    Closing (es ++ [.ended]) { s with client := s.client.endOfInput } := by
  constructor
  · exact fun _ => ⟨rfl, hhand⟩
  · exact h.final_snoc fun _ => hreading
  · intro id _ hout
    have hstart := (hout.of_snoc rfl).1.mem_starts
    have hsince : EndedSince (es ++ [.ended]) id :=
      (endedSince_snoc_iff rfl).2 (.inr ⟨rfl, hstart⟩)
    exact iff_of_false (by simp [Client.endOfInput, Mailboxes.abandon]) (not_not.2 hsince)
  · intro id method outcome hphase hbefore
    exact h.settled id method outcome hphase (hbefore.of_snoc rfl)

end Closing

/-! ### What the caller finds -/

/-- What the caller finds of a request that was not answered. -/
theorem sight_of_outstanding {id : Nat} (h : Closing es s) (haccount : Account c₀ es s)
    (hcurrent : s.phase.id? = some id) (hout : Outstanding es id) :
    (EndedSince es id ∧ s.sight id = .closed) ∨ ¬ EndedSince es id ∧ s.sight id = .waiting := by
  have honce := haccount.starts_nodup
  have hnone : s.client.boxes.answers.find? (fun a => a.1 = id) = none := by
    rcases haccount.answers with hnil | ⟨id', arrival, m, hcurrent', heq, hanswered, -⟩
    · rw [hnil]
      rfl
    · rw [hcurrent] at hcurrent'
      cases hcurrent'
      exact absurd hanswered (hout.not_answeredBy honce)
  have hhand : s.hand.any (·.id = id) = false := by
    cases hd : s.hand with
    | none => rfl
    | some d =>
        have hanswered := (haccount.hand d hd).1
        have hne : d.id ≠ id := fun heq => hout.not_answeredBy honce (heq ▸ hanswered)
        simpa using hne
  have hlisted := h.listed id hcurrent hout
  unfold sight Client.look
  rw [hnone]
  by_cases hended : EndedSince es id
  · have hnot : id ∉ s.client.boxes.pending := fun hmem => hlisted.1 hmem hended
    exact .inl ⟨hended, by simp [hnot, hhand]⟩
  · have hmem : id ∈ s.client.boxes.pending := hlisted.2 hended
    exact .inr ⟨hended, by simp [hmem]⟩

theorem label_request (id : Nat) (method : String) (params : Json) :
    Client.label (Message.request id method params) = method := by
  unfold Client.label Message.method? Message.request Message.make
  cases params.isNull <;> rfl

theorem writerClosed_of_send {c : Client} {id : Nat} {method : String} {params : Json}
    {failure : ClientFailure} (h : c.send (Message.request id method params) = .error failure) :
    c.writing = false ∧ failure = .writerClosed c.name method := by
  unfold Client.send at h
  split at h
  · cases h
  next hwriting =>
    cases h
    exact ⟨by simpa using hwriting, by rw [label_request]⟩

/-- Every move keeps the account of the waiters. -/
theorem Closing.step (h : Closing es s) (haccount : Account c₀ es s) (hstep : Step s e s') :
    Closing (es ++ [e]) s' := by
  cases hstep with
  | start method params hphase => exact h.start haccount method params
  | finish hreading hhand => exact h.finish hreading hhand
  | post hphase hsend =>
      have hsame := Client.sameWaiters_of_send hsend
      refine h.carry rfl (by simp) (by simp) hsame.name (fun hreading hhand => ?_)
        (fun id hid => ?_) (fun id _ _ => by rw [hsame.pending]) (by simp)
      · exact ⟨(CallerAside.notify hsend).reading.trans hreading, hhand⟩
      · rw [hphase]
        exact hid
  | refuse hphase hsend =>
      refine h.carry rfl (by simp) (by simp) rfl (fun hreading hhand => ⟨hreading, hhand⟩)
        (fun id hid => ?_) (fun id _ _ => Iff.rfl) ?_
      · rw [hphase]
        exact hid
      · rintro _ _ _ ⟨⟩ -
        exact .inl (congrArg _ (writerClosed_of_send hsend).2)
  | @settle id method limit hphase =>
      refine h.carry rfl (by simp) (by simp) rfl (fun hreading hhand => ⟨hreading, hhand⟩)
        (fun id hid => ?_) (fun id _ _ => Iff.rfl) ?_
      · rw [hphase]
        exact hid
      · rintro _ _ _ ⟨⟩ hbefore
        have hcurrent : s.phase.id? = some id := by
          rw [hphase]
          rfl
        have hout := h.outstanding haccount hcurrent hbefore
        have hnot := h.not_endedSince haccount.starts_nodup hbefore
        have hsight := (sight_of_outstanding h haccount hcurrent hout).resolve_left
          fun hsince => hnot hsince.1
        rw [hsight.2]
        exact .inr ⟨limit, _, rfl⟩
  | retire hphase =>
      exact h.carry rfl (by simp) (by simp) rfl (fun hreading hhand => ⟨hreading, hhand⟩)
        (by rintro _ ⟨⟩) (by rintro _ ⟨⟩) (by rintro _ _ _ ⟨⟩)
  | callerAside hphase haside =>
      have hsame := haside.sameWaiters
      exact h.carry rfl (by simp) (by simp) hsame.name
        (fun hreading hhand => ⟨haside.reading.trans hreading, hhand⟩) (fun id hid => hid)
        (fun id _ _ => by rw [hsame.pending]) h.settled
  | @claim m id hreading hhand hanswer hpending =>
      refine h.carry rfl (by simp) (fun _ _ => hreading) rfl (fun hnot _ => ?_) (fun id hid => hid)
        (fun id' _ hm => ?_) h.settled
      · rw [hreading] at hnot
        cases hnot
      -- whoever goes on waiting is not the one that is answered
      · have hne : id' ≠ id := fun heq => hm m rfl (heq ▸ hanswer)
        simp [Mailboxes.unlist, hne]
  | handOver hhand hthere =>
      refine h.carry rfl (by simp) (by simp) rfl (fun _ hnone => ?_) (fun id hid => hid)
        (fun id _ _ => Iff.rfl) h.settled
      rw [hhand] at hnone
      cases hnone
  | drop hhand hgone =>
      exact h.carry rfl (by simp) (by simp) rfl (fun hreading _ => ⟨hreading, rfl⟩)
        (fun id hid => hid) (fun id _ _ => Iff.rfl) h.settled
  | route hreading hhand hnone =>
      have hpending := (Mailboxes.route_waiters_of_notMem s.client.boxes s.client.writing hnone).1
      exact h.carry rfl (by simp) (fun _ _ => hreading) rfl (fun hnot hhand => ⟨hnot, hhand⟩)
        (fun id hid => hid) (fun id _ _ => by rw [Client.receive, hpending]) h.settled
  | workerAside haside =>
      have hsame := haside.sameWaiters
      exact h.carry rfl (by simp) (by simp) hsame.name
        (fun hreading hhand => ⟨haside.reading hreading, hhand⟩) (fun id hid => hid)
        (fun id _ _ => by rw [hsame.pending]) h.settled

theorem Closing.of_run (name : String) (root : Path) (trace : Bool) (processId : Nat)
    (hrun : Run (.opening name root trace processId) es s) : Closing es s := by
  induction hrun with
  | nil => exact opening name root trace processId
  | snoc hrun hstep ih => exact ih.step (.of_run name root trace processId hrun) hstep

/-! ### Outcomes -/

/-- How a request is settled that was not answered: refused by a writer that is gone, given up when
the reader ended since its start, and else for want of time. -/
theorem settled_of_outstanding {id : Nat} {method : String} {outcome : Except ClientFailure Json}
    (h : Closing es s) (haccount : Account c₀ es s) (hstep : Step s e s')
    (hphase : s'.phase = .settled id method outcome)
    (hnew : s.phase ≠ .settled id method outcome) (hout : Outstanding es id) :
    (s.client.writing = false ∧ outcome = .error (.writerClosed c₀.name method)) ∨
      (EndedSince es id ∧ outcome = .error (.closed c₀.name method)) ∨
      ¬ EndedSince es id ∧ ∃ limit tail, outcome = .error (.timeout c₀.name method limit tail) := by
  rw [← haccount.name]
  cases hstep with
  | refuse _ hsend =>
      cases hphase
      obtain ⟨hwriting, rfl⟩ := writerClosed_of_send hsend
      exact .inl ⟨hwriting, rfl⟩
  | settle limit hwaiting =>
      cases hphase
      have hcurrent : s.phase.id? = some id := by
        rw [hwaiting]
        rfl
      rcases sight_of_outstanding h haccount hcurrent hout with ⟨hsince, hsight⟩ | ⟨hnot, hsight⟩
      · rw [hsight]
        exact .inr (.inl ⟨hsince, rfl⟩)
      · rw [hsight]
        exact .inr (.inr ⟨hnot, limit, _, rfl⟩)
  | start | post | retire => cases hphase
  | callerAside | claim | handOver | drop | route | finish | workerAside => exact absurd hphase hnew

end Exchange

end LookupBench
