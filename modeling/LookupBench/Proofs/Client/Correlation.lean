import LookupBench.Proofs.Client.History

/-!
# Requests and their answers

Whatever the order of the moves, a request that comes back with an answer got the first message that
answers it after it was started and before it came back; no message goes to two requests, and one
that comes too early, too late or a second time goes to none.

What carries this is an account of the state in terms of the history: the list of waiters holds at
most the request that is under way, which is then outstanding; what is in the hand of the reader,
and what was handed over, is the answer to its request.
-/

namespace LookupBench

/-- What a request comes back with when it got an answer: the result, or an error of the server. -/
def IsAnswer : Except ClientFailure Json → Prop
  | .ok _ => True
  | .error (.protocol ..) => True
  | .error _ => False

namespace Client

/-- Moves that concern neither the numbers of requests nor their waiters and answers. -/
structure SameWaiters (c c' : Client) : Prop where
  name : c'.name = c.name
  nextId : c'.nextId = c.nextId
  pending : c'.boxes.pending = c.boxes.pending
  answers : c'.boxes.answers = c.boxes.answers

theorem SameWaiters.refl (c : Client) : SameWaiters c c := ⟨rfl, rfl, rfl, rfl⟩

theorem SameWaiters.trans {c c' c'' : Client} (h : SameWaiters c c') (h' : SameWaiters c' c'') :
    SameWaiters c c'' :=
  ⟨h'.name.trans h.name, h'.nextId.trans h.nextId, h'.pending.trans h.pending,
    h'.answers.trans h.answers⟩

theorem sameWaiters_of_send {c c' : Client} {m : Json} (h : c.send m = .ok c') :
    SameWaiters c c' := by
  unfold send at h
  split at h
  · cases h
    exact ⟨rfl, rfl, rfl, rfl⟩
  · cases h

theorem not_isAnswer_of_send {c : Client} {m : Json} {failure : ClientFailure}
    (h : c.send m = .error failure) : ¬ IsAnswer (.error failure) := by
  unfold send at h
  split at h
  · cases h
  · cases h
    exact id

theorem sameWaiters_close (c : Client) : SameWaiters c c.close := by
  unfold close
  split <;> exact ⟨rfl, rfl, rfl, rfl⟩

theorem sameWaiters_of_nextOutbound {c c' : Client} {item : Outbound}
    (h : c.nextOutbound = some (item, c')) : SameWaiters c c' := by
  unfold nextOutbound at h
  split at h
  · cases h
  · cases h
    exact ⟨rfl, rfl, rfl, rfl⟩

theorem result_eq_of_name_eq {c c' : Client} (h : c.name = c'.name) (method : String) (m : Json) :
    c.result method m = c'.result method m := by
  simp only [result, h]

theorem mem_answers_of_look {c : Client} {id : Nat} {m : Json} (h : c.look id = .answered m) :
    (id, m) ∈ c.boxes.answers := by
  unfold look at h
  split at h
  next id' m' hfound =>
    cases h
    have hid : id' = id := by simpa using List.find?_some hfound
    exact hid ▸ List.mem_of_find?_eq_some hfound
  next => split at h <;> cases h

end Client

namespace Exchange

theorem CallerAside.sameWaiters {c c' : Client} (h : CallerAside c c') : c.SameWaiters c' := by
  cases h with
  | notify hsend => exact Client.sameWaiters_of_send hsend
  | collect => exact ⟨rfl, rfl, rfl, rfl⟩
  | close => exact Client.sameWaiters_close c

theorem WorkerAside.sameWaiters {c c' : Client} (h : WorkerAside c c') : c.SameWaiters c' := by
  cases h with
  | write hnext => exact Client.sameWaiters_of_nextOutbound hnext
  | stopWriting => exact ⟨rfl, rfl, rfl, rfl⟩
  | stopReading => exact ⟨rfl, rfl, rfl, rfl⟩
  | hear bytes => exact ⟨rfl, rfl, rfl, rfl⟩
  | endOfErrors => exact ⟨rfl, rfl, rfl, rfl⟩

theorem answered_of_sight {s : Exchange} {id : Nat} {m : Json} (h : s.sight id = .answered m) :
    s.client.look id = .answered m := by
  unfold sight at h
  split at h
  · split at h <;> cases h
  · exact h

/-- Settling with an answer is taking the message that was handed over. -/
theorem mem_answers_of_conclude {s : Exchange} {id : Nat} {method : String} {limit : Duration}
    (h : IsAnswer (s.client.conclude method limit (s.sight id))) :
    ∃ m, (id, m) ∈ s.client.boxes.answers ∧
      s.client.conclude method limit (s.sight id) = s.client.result method m := by
  cases hsight : s.sight id with
  | answered m => exact ⟨m, Client.mem_answers_of_look (answered_of_sight hsight), rfl⟩
  | closed =>
      rw [hsight] at h
      exact h.elim
  | waiting =>
      rw [hsight] at h
      exact h.elim

/-- What a history says of a request that comes back with `outcome`. -/
def Explained (c₀ : Client) (es : List Event) (id : Nat) (outcome : Except ClientFailure Json) :
    Prop :=
  ∃ method arrival m, .started id method ∈ es ∧ AnsweredBy es id arrival m ∧
    .handed arrival id ∈ es ∧ outcome = c₀.result method m

theorem Explained.append {c₀ : Client} {es : List Event} {id : Nat}
    {outcome : Except ClientFailure Json} (h : Explained c₀ es id outcome) (fs : List Event) :
    Explained c₀ (es ++ fs) id outcome := by
  obtain ⟨method, arrival, m, hstart, hanswer, hhanded, hresult⟩ := h
  exact ⟨method, arrival, m, List.mem_append_left _ hstart, hanswer.append fs,
    List.mem_append_left _ hhanded, hresult⟩

/-- The account of a state in terms of the history that led to it from a client `c₀`. -/
structure Account (c₀ : Client) (es : List Event) (s : Exchange) : Prop where
  name : s.client.name = c₀.name
  arrived : s.arrived = (arrivals es).length
  starts_lt : ∀ id ∈ starts es, id < s.client.nextId
  starts_nodup : (starts es).Nodup
  returns_started : ∀ id ∈ returns es, id ∈ starts es
  returns_nodup : (returns es).Nodup
  current : ∀ id method, s.phase.request? = some (id, method) →
    .started id method ∈ es ∧ id ∉ returns es
  pending : s.client.boxes.pending = [] ∨
    ∃ id, s.phase.id? = some id ∧ s.client.boxes.pending = [id] ∧ Outstanding es id
  hand : ∀ d, s.hand = some d →
    AnsweredBy es d.id d.arrival d.message ∧ ∀ id, (d.arrival, id) ∉ handovers es
  answers : s.client.boxes.answers = [] ∨
    ∃ id arrival m, s.phase.id? = some id ∧ s.client.boxes.answers = [(id, m)] ∧
      AnsweredBy es id arrival m ∧ (arrival, id) ∈ handovers es
  settled : ∀ id method outcome, s.phase = .settled id method outcome → IsAnswer outcome →
    Explained c₀ es id outcome
  handed : ∀ arrival id, (arrival, id) ∈ handovers es → ∃ m, AnsweredBy es id arrival m
  handovers_nodup : (handovers es).Nodup
  returned : ∀ before id outcome after, es = before ++ .returned id outcome :: after →
    IsAnswer outcome → Explained c₀ before id outcome

namespace Account

variable {c₀ : Client} {es : List Event} {s s' : Exchange}

theorem opening (name : String) (root : Path) (trace : Bool) (processId : Nat) :
    Account (opening name root trace processId).client [] (opening name root trace processId) := by
  constructor <;> simp [Exchange.opening, starts, returns, handovers, arrivals, Phase.request?]

/-- An event that is no return leaves the requests that came back as they are. -/
theorem returned_snoc {e : Event} (h : Account c₀ es s) (hreturns : returns [e] = []) :
    ∀ before id outcome after, es ++ [e] = before ++ .returned id outcome :: after →
      IsAnswer outcome → Explained c₀ before id outcome := by
  intro before id outcome after heq hisAnswer
  rcases snoc_cut heq with ⟨-, rfl, -⟩ | ⟨after', -, heq'⟩
  · cases hreturns
  · exact h.returned before id outcome after' heq' hisAnswer

theorem handed_append (h : Account c₀ es s) (fs : List Event) :
    ∀ arrival id, (arrival, id) ∈ handovers es → ∃ m, AnsweredBy (es ++ fs) id arrival m := by
  intro arrival id hmem
  obtain ⟨m, hanswer⟩ := h.handed arrival id hmem
  exact ⟨m, hanswer.append fs⟩

theorem answers_append (h : Account c₀ es s) (fs : List Event) :
    s.client.boxes.answers = [] ∨
      ∃ id arrival m, s.phase.id? = some id ∧ s.client.boxes.answers = [(id, m)] ∧
        AnsweredBy (es ++ fs) id arrival m ∧ (arrival, id) ∈ handovers es := by
  rcases h.answers with hnil | ⟨id, arrival, m, hcurrent, heq, hanswer, hhanded⟩
  · exact .inl hnil
  · exact .inr ⟨id, arrival, m, hcurrent, heq, hanswer.append fs, hhanded⟩

theorem idle_waiters (h : Account c₀ es s) (hphase : s.phase = .idle) :
    s.client.boxes.pending = [] ∧ s.client.boxes.answers = [] := by
  have hid : s.phase.id? = none := by
    rw [hphase]
    rfl
  constructor
  · rcases h.pending with hnil | ⟨id, hcurrent, -⟩
    · exact hnil
    · rw [hid] at hcurrent
      cases hcurrent
  · rcases h.answers with hnil | ⟨id, arrival, m, hcurrent, -⟩
    · exact hnil
    · rw [hid] at hcurrent
      cases hcurrent

/-- A request goes on being waited for until it comes back or its answer arrives. -/
theorem pending_snoc {e : Event} (h : Account c₀ es s) (hreturns : returns [e] = [])
    (hother : ∀ m id, e = .received m → Message.answered? m = some id →
      id ∉ s.client.boxes.pending) :
    s.client.boxes.pending = [] ∨
      ∃ id, s.phase.id? = some id ∧ s.client.boxes.pending = [id] ∧ Outstanding (es ++ [e]) id := by
  rcases h.pending with hnil | ⟨id, hcurrent, heq, hout⟩
  · exact .inl hnil
  · refine .inr ⟨id, hcurrent, heq, hout.snoc ?_ ?_⟩
    · rintro outcome rfl
      cases hreturns
    · intro m hm hanswer
      exact hother m id hm hanswer (heq ▸ List.mem_singleton.2 rfl)

/-- An event that neither starts a request nor brings one back keeps the account of the requests.
What is left to say is where the waiters and the answers are. -/
theorem carry {e : Event} (h : Account c₀ es s) (hstarts : starts [e] = [])
    (hreturns : returns [e] = [])
    (hname : s'.client.name = s.client.name) (hnextId : s'.client.nextId = s.client.nextId)
    (hrequest : s'.phase.request? = s.phase.request?)
    (harrived : s'.arrived = s.arrived + (arrivals [e]).length)
    (hpending : s'.client.boxes.pending = [] ∨
      ∃ id, s.phase.id? = some id ∧ s'.client.boxes.pending = [id] ∧ Outstanding (es ++ [e]) id)
    (hhand : ∀ d, s'.hand = some d →
      AnsweredBy (es ++ [e]) d.id d.arrival d.message ∧
        ∀ id, (d.arrival, id) ∉ handovers es ++ handovers [e])
    (hanswers : s'.client.boxes.answers = [] ∨
      ∃ id arrival m, s.phase.id? = some id ∧ s'.client.boxes.answers = [(id, m)] ∧
        AnsweredBy (es ++ [e]) id arrival m ∧ (arrival, id) ∈ handovers es ++ handovers [e])
    (hsettled : ∀ id method outcome, s'.phase = .settled id method outcome → IsAnswer outcome →
      Explained c₀ es id outcome)
    (hhanded : ∀ arrival id, (arrival, id) ∈ handovers es ++ handovers [e] →
      ∃ m, AnsweredBy (es ++ [e]) id arrival m)
    (hnodup : (handovers es ++ handovers [e]).Nodup) : Account c₀ (es ++ [e]) s' := by
  have hid : s'.phase.id? = s.phase.id? := congrArg (Option.map Prod.fst) hrequest
  have hstarts' : starts (es ++ [e]) = starts es := by
    rw [starts_append, hstarts, List.append_nil]
  have hreturns' : returns (es ++ [e]) = returns es := by
    rw [returns_append, hreturns, List.append_nil]
  rw [← handovers_append] at hnodup
  constructor
  · exact hname.trans h.name
  · rw [harrived, h.arrived, arrivals_append, List.length_append]
  · rw [hstarts', hnextId]
    exact h.starts_lt
  · rw [hstarts']
    exact h.starts_nodup
  · rw [hstarts', hreturns']
    exact h.returns_started
  · rw [hreturns']
    exact h.returns_nodup
  · intro id method hcurrent
    obtain ⟨hstart, hreturn⟩ := h.current id method (hrequest ▸ hcurrent)
    exact ⟨List.mem_append_left _ hstart, hreturns' ▸ hreturn⟩
  · rw [hid]
    exact hpending
  · rw [handovers_append]
    exact hhand
  · rw [hid, handovers_append]
    exact hanswers
  · intro id method outcome hphase hisAnswer
    exact (hsettled id method outcome hphase hisAnswer).append _
  · rw [handovers_append]
    exact hhanded
  · exact hnodup
  · exact h.returned_snoc hreturns

/-- Moves that are no events of requests and answers: what changes is at most that waiters are
dropped, and that the request under way is settled. -/
theorem quiet {e : Event} (h : Account c₀ es s) (he : e = .other ∨ e = .ended)
    (hclient : s'.client.name = s.client.name ∧ s'.client.nextId = s.client.nextId ∧
      s'.client.boxes.answers = s.client.boxes.answers)
    (hpending : s'.client.boxes.pending = s.client.boxes.pending ∨
      s'.client.boxes.pending = [])
    (hrequest : s'.phase.request? = s.phase.request?)
    (hsettled : ∀ id method outcome, s'.phase = .settled id method outcome → IsAnswer outcome →
      Explained c₀ es id outcome)
    (hhand : s'.hand = s.hand ∨ s'.hand = none) (harrived : s'.arrived = s.arrived) :
    Account c₀ (es ++ [e]) s' := by
  have hnone : starts [e] = [] ∧ returns [e] = [] ∧ arrivals [e] = [] ∧ handovers [e] = [] := by
    rcases he with rfl | rfl <;> exact ⟨rfl, rfl, rfl, rfl⟩
  obtain ⟨hstarts, hreturns, harrivals, hhandovers⟩ := hnone
  apply h.carry hstarts hreturns hclient.1 hclient.2.1 hrequest
  · rw [harrived, harrivals, List.length_nil, Nat.add_zero]
  · rcases hpending with hsame | hnil
    · rw [hsame]
      apply h.pending_snoc hreturns
      rintro m id rfl
      rcases he with he | he <;> cases he
    · exact .inl hnil
  · intro d hd
    rcases hhand with hsame | hnone
    · obtain ⟨hanswer, hnot⟩ := h.hand d (hsame ▸ hd)
      rw [hhandovers, List.append_nil]
      exact ⟨hanswer.append _, hnot⟩
    · rw [hnone] at hd
      cases hd
  · rw [hclient.2.2, hhandovers, List.append_nil]
    exact h.answers_append _
  · exact hsettled
  · rw [hhandovers, List.append_nil]
    exact h.handed_append _
  · rw [hhandovers, List.append_nil]
    exact h.handovers_nodup

theorem start (h : Account c₀ es s) (method : String) (params : Json) (hphase : s.phase = .idle) :
    Account c₀ (es ++ [.started s.client.nextId method])
      { s with
        client := s.client.register.2
        phase := .registered s.client.nextId method params } := by
  obtain ⟨hpending, hanswers⟩ := h.idle_waiters hphase
  have hfresh : s.client.nextId ∉ starts es := fun hmem => Nat.lt_irrefl _ (h.starts_lt _ hmem)
  have hreturns : returns (es ++ [.started s.client.nextId method]) = returns es := by
    simp [returns]
  have hhandovers : handovers (es ++ [.started s.client.nextId method]) = handovers es := by
    simp [handovers]
  constructor
  · exact h.name
  · simpa [arrivals] using h.arrived
  · intro id hid
    simp only [starts_append, List.mem_append] at hid
    rcases hid with hid | hid
    · exact Nat.lt_succ_of_lt (h.starts_lt id hid)
    · rw [List.mem_singleton.1 hid]
      exact Nat.lt_succ_self s.client.nextId
  · simp only [starts_append, starts_started, starts_nil, List.nodup_append]
    refine ⟨h.starts_nodup, by simp, fun id hid id' hid' => ?_⟩
    rintro rfl
    rw [List.mem_singleton.1 hid'] at hid
    exact hfresh hid
  · rw [hreturns]
    intro id hid
    rw [starts_append]
    exact List.mem_append_left _ (h.returns_started id hid)
  · rw [hreturns]
    exact h.returns_nodup
  · rw [hreturns]
    intro id method' hcurrent
    simp only [Phase.request?, Option.some.injEq, Prod.mk.injEq] at hcurrent
    obtain ⟨rfl, rfl⟩ := hcurrent
    exact ⟨by simp, fun hmem => hfresh (h.returns_started _ hmem)⟩
  · refine .inr ⟨s.client.nextId, rfl, ?_, .start es _ method⟩
    simp [Client.register, hpending]
  · rw [hhandovers]
    intro d hd
    obtain ⟨hanswer, hnot⟩ := h.hand d hd
    exact ⟨hanswer.append _, hnot⟩
  · exact .inl hanswers
  · intro id method' outcome hsettled
    cases hsettled
  · rw [hhandovers]
    exact h.handed_append _
  · rw [hhandovers]
    exact h.handovers_nodup
  · exact h.returned_snoc rfl

theorem retire {id : Nat} {method : String} {outcome : Except ClientFailure Json}
    (h : Account c₀ es s) (hphase : s.phase = .settled id method outcome) :
    Account c₀ (es ++ [.returned id outcome])
      { s with client := s.client.retire id, phase := .idle } := by
  have hid : s.phase.id? = some id := by
    rw [hphase]
    rfl
  obtain ⟨hstart, hreturn⟩ := h.current id method (by rw [hphase]; rfl)
  have hstarts : starts (es ++ [.returned id outcome]) = starts es := by simp [starts]
  have hhandovers : handovers (es ++ [.returned id outcome]) = handovers es := by simp [handovers]
  constructor
  · exact h.name
  · simpa [arrivals] using h.arrived
  · rw [hstarts]
    exact h.starts_lt
  · rw [hstarts]
    exact h.starts_nodup
  · rw [hstarts]
    intro id' hid'
    simp only [returns_append, List.mem_append] at hid'
    rcases hid' with hid' | hid'
    · exact h.returns_started id' hid'
    · rw [List.mem_singleton.1 hid']
      exact mem_starts.2 ⟨method, hstart⟩
  · simp only [returns_append, returns_returned, returns_nil, List.nodup_append]
    refine ⟨h.returns_nodup, by simp, fun id₁ h₁ id₂ h₂ => ?_⟩
    rintro rfl
    rw [List.mem_singleton.1 h₂] at h₁
    exact hreturn h₁
  · intro id' method' hcurrent
    cases hcurrent
  · left
    rcases h.pending with hnil | ⟨id', hcurrent, heq, -⟩
    · simp [Client.retire, hnil]
    · rw [hid] at hcurrent
      cases hcurrent
      simp [Client.retire, heq]
  · rw [hhandovers]
    intro d hd
    obtain ⟨hanswer, hnot⟩ := h.hand d hd
    exact ⟨hanswer.append _, hnot⟩
  · left
    rcases h.answers with hnil | ⟨id', arrival, m, hcurrent, heq, -⟩
    · simp [Client.retire, hnil]
    · rw [hid] at hcurrent
      cases hcurrent
      simp [Client.retire, heq]
  · intro id' method' outcome' hsettled
    cases hsettled
  · rw [hhandovers]
    exact h.handed_append _
  · rw [hhandovers]
    exact h.handovers_nodup
  · intro before id' outcome' after heq hisAnswer
    rcases snoc_cut heq with ⟨rfl, hevent, -⟩ | ⟨after', -, heq'⟩
    · cases hevent
      exact h.settled id method outcome hphase hisAnswer
    · exact h.returned before id' outcome' after' heq' hisAnswer

theorem claim {m : Json} {id : Nat} (h : Account c₀ es s)
    (hanswer : Message.answered? m = some id) (hpending : id ∈ s.client.boxes.pending) :
    Account c₀ (es ++ [.received m])
      { s with
        client := { s.client with boxes := s.client.boxes.unlist id }
        hand := some ⟨s.arrived, id, m⟩
        arrived := s.arrived + 1 } := by
  obtain ⟨hlist, hout⟩ : s.client.boxes.pending = [id] ∧ Outstanding es id := by
    rcases h.pending with hnil | ⟨id', -, heq, hout⟩
    · rw [hnil] at hpending
      cases hpending
    · rw [heq] at hpending
      obtain rfl := List.mem_singleton.1 hpending
      exact ⟨heq, hout⟩
  have hhandovers : handovers es ++ handovers [.received m] = handovers es := List.append_nil _
  refine h.carry rfl rfl rfl rfl rfl rfl ?_ ?_ ?_ ?_ ?_ ?_
  · left
    simp [Mailboxes.unlist, hlist]
  · intro d hd
    cases hd
    refine ⟨h.arrived ▸ .now hanswer hout, fun id' hmem => ?_⟩
    -- what was handed over had arrived before
    rw [hhandovers] at hmem
    obtain ⟨m', hearlier⟩ := h.handed _ _ hmem
    exact Nat.lt_irrefl _ (h.arrived ▸ hearlier.arrival_lt)
  · rw [hhandovers]
    exact h.answers_append _
  · exact h.settled
  · rw [hhandovers]
    exact h.handed_append _
  · rw [hhandovers]
    exact h.handovers_nodup

/-- The slot of the waiter is empty: an answer in it would be the one in the hand. -/
theorem answers_eq_nil_of_hand {d : Delivery} (h : Account c₀ es s) (hhand : s.hand = some d)
    (hthere : s.phase.id? = some d.id) : s.client.boxes.answers = [] := by
  obtain ⟨hanswer, hnot⟩ := h.hand d hhand
  rcases h.answers with hnil | ⟨id, arrival, m, hcurrent, -, hanswered, hhanded⟩
  · exact hnil
  · rw [hthere] at hcurrent
    cases hcurrent
    rw [hanswered.arrival_unique h.starts_nodup hanswer] at hhanded
    exact absurd hhanded (hnot d.id)

theorem handOver {d : Delivery} (h : Account c₀ es s) (hhand : s.hand = some d)
    (hthere : s.phase.id? = some d.id) :
    Account c₀ (es ++ [.handed d.arrival d.id])
      { s with
        client := { s.client with boxes := s.client.boxes.handOver d.id d.message }
        hand := none } := by
  have hempty : s.client.boxes.answers = [] := h.answers_eq_nil_of_hand hhand hthere
  obtain ⟨hanswer, hnot⟩ := h.hand d hhand
  refine h.carry rfl rfl rfl rfl rfl rfl ?_ ?_ ?_ ?_ ?_ ?_
  · exact h.pending_snoc rfl (by simp)
  · intro d' hd'
    cases hd'
  · refine .inr ⟨d.id, d.arrival, d.message, hthere, ?_, hanswer.append _, by simp⟩
    simp [Mailboxes.handOver, hempty]
  · exact h.settled
  · intro arrival id hmem
    rcases List.mem_append.1 hmem with hmem | hmem
    · exact h.handed_append _ arrival id hmem
    · obtain ⟨rfl, rfl⟩ := Prod.mk.inj (List.mem_singleton.1 hmem)
      exact ⟨d.message, hanswer.append _⟩
  · refine List.nodup_append.2 ⟨h.handovers_nodup, by simp, fun pair hpair pair' hpair' => ?_⟩
    rintro rfl
    rw [List.mem_singleton.1 hpair'] at hpair
    exact hnot d.id hpair

theorem route {m : Json} (h : Account c₀ es s)
    (hhand : s.hand = none)
    (hnone : ∀ id, Message.answered? m = some id → id ∉ s.client.boxes.pending) :
    Account c₀ (es ++ [.received m])
      { s with client := s.client.receive m, arrived := s.arrived + 1 } := by
  have hhandovers : handovers es ++ handovers [.received m] = handovers es := List.append_nil _
  obtain ⟨hpending, hanswers⟩ :=
    Mailboxes.route_waiters_of_notMem s.client.boxes s.client.writing hnone
  refine h.carry rfl rfl rfl rfl rfl rfl ?_ ?_ ?_ ?_ ?_ ?_
  · simp only [Client.receive, hpending]
    apply h.pending_snoc rfl
    intro m' id hm' hanswer
    cases hm'
    exact hnone id hanswer
  · intro d hd
    rw [hhand] at hd
    cases hd
  · simp only [Client.receive, hanswers, hhandovers]
    exact h.answers_append _
  · exact h.settled
  · rw [hhandovers]
    exact h.handed_append _
  · rw [hhandovers]
    exact h.handovers_nodup

/-- Settling gives an answer only where one was handed over. -/
theorem explained_of_settle {id : Nat} {method : String} (h : Account c₀ es s) (limit : Duration)
    (hphase : s.phase = .waiting id method)
    (hisAnswer : IsAnswer (s.client.conclude method limit (s.sight id))) :
    Explained c₀ es id (s.client.conclude method limit (s.sight id)) := by
  obtain ⟨m, hmem, hresult⟩ := mem_answers_of_conclude hisAnswer
  obtain ⟨hstart, -⟩ := h.current id method (by rw [hphase]; rfl)
  rcases h.answers with hnil | ⟨id', arrival, m', -, heq, hanswered, hhanded⟩
  · rw [hnil] at hmem
    cases hmem
  · rw [heq] at hmem
    obtain ⟨rfl, rfl⟩ := Prod.mk.inj (List.mem_singleton.1 hmem)
    refine ⟨method, arrival, m, hstart, hanswered, mem_handovers.1 hhanded, ?_⟩
    rw [hresult]
    exact Client.result_eq_of_name_eq h.name method m

/-- Every move keeps the account. -/
theorem step {e : Event} (h : Account c₀ es s) (hstep : Step s e s') :
    Account c₀ (es ++ [e]) s' := by
  cases hstep with
  | start method params hphase => exact h.start method params hphase
  | post hphase hsend =>
      have hsame := Client.sameWaiters_of_send hsend
      exact h.quiet (.inl rfl) ⟨hsame.name, hsame.nextId, hsame.answers⟩ (.inl hsame.pending)
        (by rw [hphase]; rfl) (by simp) (.inl rfl) rfl
  | refuse hphase hsend =>
      refine h.quiet (.inl rfl) ⟨rfl, rfl, rfl⟩ (.inl rfl) (by rw [hphase]; rfl) ?_ (.inl rfl) rfl
      intro id method outcome hsettled hisAnswer
      cases hsettled
      exact absurd hisAnswer (Client.not_isAnswer_of_send hsend)
  | settle limit hphase =>
      refine h.quiet (.inl rfl) ⟨rfl, rfl, rfl⟩ (.inl rfl) (by rw [hphase]; rfl) ?_ (.inl rfl) rfl
      intro id method outcome hsettled hisAnswer
      cases hsettled
      exact h.explained_of_settle limit hphase hisAnswer
  | retire hphase => exact h.retire hphase
  | callerAside hphase haside =>
      have hsame := haside.sameWaiters
      exact h.quiet (.inl rfl) ⟨hsame.name, hsame.nextId, hsame.answers⟩ (.inl hsame.pending) rfl
        h.settled (.inl rfl) rfl
  | claim hreading hhand hanswer hpending => exact h.claim hanswer hpending
  | handOver hhand hthere => exact h.handOver hhand hthere
  | drop hhand hgone =>
      exact h.quiet (.inl rfl) ⟨rfl, rfl, rfl⟩ (.inl rfl) rfl h.settled (.inr rfl) rfl
  | route hreading hhand hnone => exact h.route hhand hnone
  | finish hreading hhand =>
      exact h.quiet (.inr rfl) ⟨rfl, rfl, rfl⟩ (.inr rfl) rfl h.settled (.inl rfl) rfl
  | workerAside haside =>
      have hsame := haside.sameWaiters
      exact h.quiet (.inl rfl) ⟨hsame.name, hsame.nextId, hsame.answers⟩ (.inl hsame.pending) rfl
        h.settled (.inl rfl) rfl

theorem of_run (name : String) (root : Path) (trace : Bool) (processId : Nat)
    (hrun : Run (.opening name root trace processId) es s) :
    Account (Exchange.opening name root trace processId).client es s := by
  induction hrun with
  | nil => exact opening name root trace processId
  | snoc _ hstep ih => exact ih.step hstep

end Account

/-- A history is made up of histories: each beginning of it led to some state. -/
theorem Run.cut {s₀ s : Exchange} {es before after : List Event} (h : Run s₀ es s)
    (heq : es = before ++ after) : ∃ s', Run s₀ before s' := by
  induction h generalizing after with
  | nil =>
      obtain ⟨rfl, -⟩ := List.append_eq_nil_iff.1 heq.symm
      exact ⟨s₀, .nil⟩
  | @snoc es s s' e hrun hstep ih =>
      rcases List.eq_nil_or_concat after with rfl | ⟨after', e', rfl⟩
      · rw [List.append_nil] at heq
        exact ⟨s', heq ▸ hrun.snoc hstep⟩
      · rw [List.concat_eq_append, ← List.append_assoc] at heq
        exact ih (List.append_inj_left' heq rfl)

/-- The last move of a history. -/
theorem Run.last {s₀ : Exchange} {es : List Event} {e : Event} {s' : Exchange}
    (h : Run s₀ (es ++ [e]) s') : ∃ s, Run s₀ es s ∧ Step s e s' := by
  generalize heq : es ++ [e] = fs at h
  cases h with
  | nil => simp at heq
  | snoc hrun hstep =>
      obtain ⟨rfl, he⟩ := List.append_inj' heq rfl
      obtain rfl := List.singleton_inj.1 he
      exact ⟨_, hrun, hstep⟩

/-- Requests and answers belong together, in a history from a client `c₀` and in the state that it
leads to. -/
structure Correlated (c₀ : Client) (es : List Event) (s : Exchange) : Prop where
  /-- A request that comes back with an answer got the contents of a message that answers it, which
  arrived and was handed over after the start of the request and before its return. -/
  contents : ∀ before id outcome after, es = before ++ .returned id outcome :: after →
    IsAnswer outcome →
      ∃ method arrival m, .started id method ∈ before ∧ (∀ o, .returned id o ∉ before) ∧
        AnsweredBy before id arrival m ∧ .handed arrival id ∈ before ∧
        outcome = c₀.result method m
  /-- No request is started or comes back twice. -/
  once : (starts es).Nodup ∧ (returns es).Nodup
  /-- No message goes to two requests, none goes to a request twice, and no request gets two. -/
  unshared : (handovers es).Nodup ∧
    (∀ arrival id id', .handed arrival id ∈ es → .handed arrival id' ∈ es → id = id') ∧
    ∀ arrival arrival' id, .handed arrival id ∈ es → .handed arrival' id ∈ es → arrival = arrival'
  /-- A message that answers no request goes to none; nor does one that comes before the start of
  its request, after its return, or after an answer to it. -/
  timely : ∀ before m after, es = before ++ .received m :: after →
    (∀ id, Message.answered? m = some id → id ∉ starts before ∨ id ∈ returns before ∨
      ∃ arrival m', AnsweredBy before id arrival m') →
    ∀ id, .handed (arrivals before).length id ∉ es
  /-- The list of waiters holds the request under way and no other. -/
  waiters : ∀ id ∈ s.client.boxes.pending, s.client.boxes.pending = [id] ∧
    s.phase.id? = some id ∧ id < s.client.nextId ∧ Outstanding es id

/-- Requests and answers belong together after any moves in any order. -/
theorem correlated_of_run (name : String) (root : Path) (trace : Bool) (processId : Nat)
    {es : List Event} {s : Exchange} (hrun : Run (.opening name root trace processId) es s) :
    Correlated (Exchange.opening name root trace processId).client es s := by
  have haccount := Account.of_run name root trace processId hrun
  have hprefix : ∀ before after, es = before ++ after →
      ∃ s', Account (Exchange.opening name root trace processId).client before s' := by
    intro before after heq
    obtain ⟨s', hrun'⟩ := hrun.cut heq
    exact ⟨s', .of_run name root trace processId hrun'⟩
  constructor
  · intro before id outcome after heq hisAnswer
    obtain ⟨method, arrival, m, hstart, hanswer, hhanded, hresult⟩ :=
      haccount.returned before id outcome after heq hisAnswer
    refine ⟨method, arrival, m, hstart, fun o hmem => ?_, hanswer, hhanded, hresult⟩
    have honce := haccount.returns_nodup
    rw [heq, returns_append, returns_returned] at honce
    exact (List.nodup_append.1 honce).2.2 id (mem_returns.2 ⟨o, hmem⟩) id List.mem_cons_self rfl
  · exact ⟨haccount.starts_nodup, haccount.returns_nodup⟩
  · refine ⟨haccount.handovers_nodup, fun arrival id id' h h' => ?_, fun arrival arrival' id h h' => ?_⟩
    · obtain ⟨m, hanswer⟩ := haccount.handed arrival id (mem_handovers.2 h)
      obtain ⟨m', hanswer'⟩ := haccount.handed arrival id' (mem_handovers.2 h')
      exact hanswer.id_unique hanswer'
    · obtain ⟨m, hanswer⟩ := haccount.handed arrival id (mem_handovers.2 h)
      obtain ⟨m', hanswer'⟩ := haccount.handed arrival' id (mem_handovers.2 h')
      exact hanswer.arrival_unique haccount.starts_nodup hanswer'
  · intro before m after heq hmissed id hhanded
    obtain ⟨m', hanswered⟩ := haccount.handed _ id (mem_handovers.2 hhanded)
    subst heq
    obtain ⟨hanswer, hout⟩ := hanswered.outstanding_at rfl
    obtain ⟨s', haccount'⟩ := hprefix before _ rfl
    rcases hmissed id hanswer with hearly | hlate | ⟨arrival, m'', hsecond⟩
    · obtain ⟨b, method, since, rfl, -⟩ := hout
      exact hearly (by simp)
    · refine hout.not_after_return haccount'.starts_nodup (fun b c hcut => ?_) hlate
      obtain ⟨s'', haccount''⟩ :=
        hprefix b (c ++ .received m :: after) (by rw [hcut, List.append_assoc])
      exact haccount''.returns_started
    · obtain ⟨b, c, rfl, -, hanswer'', hout''⟩ := hsecond
      exact hout''.not_after_answer haccount'.starts_nodup hanswer'' hout
  · intro id hid
    rcases haccount.pending with hnil | ⟨id', hcurrent, hlist, hout⟩
    · rw [hnil] at hid
      cases hid
    · rw [hlist] at hid
      obtain rfl := List.mem_singleton.1 hid
      have hstarted : id ∈ starts es := by
        obtain ⟨b, method, since, rfl, -⟩ := hout
        simp
      exact ⟨hlist, hcurrent, haccount.starts_lt id hstarted, hout⟩

/-! ### A late answer -/

def answerTo (id : Int) (text : String) : Json :=
  .object [("id", .int id), ("result", .string text)]

/-- The first request reaches its limit. Its answer comes then, and after that the answer to the
second. -/
def lateHistory : List Event :=
  [.started 1 "initialize", .other, .other, .returned 1 (.error (.timeout "a" "initialize" ⟨0⟩ "")),
    .received (answerTo 1 "late"), .started 2 "shutdown", .other, .received (answerTo 2 "found"),
    .handed 1 2, .other, .returned 2 (.ok (.string "found"))]

theorem exists_run_lateHistory : ∃ s, Run (.opening "a" [] false 1) lateHistory s := by
  have hanswer : Message.answered? (answerTo 2 "found") = some 2 := by decide
  have h₀ : Run (.opening "a" [] false 1) [] _ := .nil
  have h₁ := h₀.snoc (.start _ "initialize" .null rfl)
  have h₂ := h₁.snoc (.post _ rfl rfl)
  have h₃ := h₂.snoc (.settle _ ⟨0⟩ rfl)
  have h₄ := h₃.snoc (.retire _ rfl)
  have h₅ := h₄.snoc (.route _ (m := answerTo 1 "late") rfl rfl (by intro id _ h; cases h))
  have h₆ := h₅.snoc (.start _ "shutdown" .null rfl)
  have h₇ := h₆.snoc (.post _ rfl rfl)
  have h₈ := h₇.snoc (.claim _ rfl rfl hanswer (by decide))
  have h₉ := h₈.snoc (.handOver _ rfl rfl)
  have h₁₀ := h₉.snoc (.settle _ ⟨0⟩ rfl)
  have h₁₁ := h₁₀.snoc (.retire _ rfl)
  exact ⟨_, h₁₁⟩

theorem correlated_lateHistory : ∃ s, Run (.opening "a" [] false 1) lateHistory s ∧
    Correlated (Exchange.opening "a" [] false 1).client lateHistory s := by
  obtain ⟨s, hrun⟩ := exists_run_lateHistory
  exact ⟨s, hrun, correlated_of_run "a" [] false 1 hrun⟩

end Exchange

end LookupBench
