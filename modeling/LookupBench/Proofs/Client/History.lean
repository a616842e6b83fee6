import LookupBench.Proofs.Client.Exchange
import Mathlib.Data.List.Basic
import Mathlib.Data.List.Nodup

/-!
# Histories

What a history says about one request: whether it is outstanding, and which arrival is its answer.
A request is outstanding from its start until it returns or a message arrives that answers it. The
message that ends this is its answer; there is at most one, and it answers no other request.
-/

namespace LookupBench

/-- A request was started, and since then it has not returned and no answer to it has arrived. -/
def Outstanding (es : List Event) (id : Nat) : Prop :=
  ∃ before method since, es = before ++ .started id method :: since ∧
    (∀ outcome, Event.returned id outcome ∉ since) ∧
    ∀ m, Event.received m ∈ since → Message.answered? m ≠ some id

/-- A message arrived that answers a request, while that request was outstanding. -/
def AnsweredBy (es : List Event) (id arrival : Nat) (m : Json) : Prop :=
  ∃ before after, es = before ++ .received m :: after ∧ (arrivals before).length = arrival ∧
    Message.answered? m = some id ∧ Outstanding before id

/-! ### The events of one kind -/

section Kinds

variable (es fs : List Event)

@[simp] theorem arrivals_append : arrivals (es ++ fs) = arrivals es ++ arrivals fs :=
  List.filterMap_append

@[simp] theorem starts_append : starts (es ++ fs) = starts es ++ starts fs :=
  List.filterMap_append

@[simp] theorem handovers_append : handovers (es ++ fs) = handovers es ++ handovers fs :=
  List.filterMap_append

@[simp] theorem returns_append : returns (es ++ fs) = returns es ++ returns fs :=
  List.filterMap_append

@[simp] theorem arrivals_received (m : Json) :
    arrivals (.received m :: es) = m :: arrivals es := rfl

@[simp] theorem starts_received (m : Json) : starts (.received m :: es) = starts es := rfl

@[simp] theorem starts_started (id : Nat) (method : String) :
    starts (.started id method :: es) = id :: starts es := rfl

@[simp] theorem arrivals_nil : arrivals [] = [] := rfl

@[simp] theorem starts_nil : starts [] = [] := rfl

@[simp] theorem returns_nil : returns [] = [] := rfl

@[simp] theorem returns_returned (id : Nat) (outcome : Except ClientFailure Json) :
    returns (.returned id outcome :: es) = id :: returns es := rfl

@[simp] theorem handovers_nil : handovers [] = [] := rfl

@[simp] theorem handovers_handed (arrival id : Nat) :
    handovers (.handed arrival id :: es) = (arrival, id) :: handovers es := rfl

end Kinds

theorem mem_starts {es : List Event} {id : Nat} :
    id ∈ starts es ↔ ∃ method, Event.started id method ∈ es := by
  simp only [starts, List.mem_filterMap]
  constructor
  · rintro ⟨e, he, heq⟩
    cases e <;> simp only [reduceCtorEq, Option.some.injEq] at heq
    next method => exact ⟨method, heq ▸ he⟩
  · rintro ⟨method, he⟩
    exact ⟨_, he, rfl⟩

theorem mem_handovers {es : List Event} {arrival id : Nat} :
    (arrival, id) ∈ handovers es ↔ Event.handed arrival id ∈ es := by
  simp only [handovers, List.mem_filterMap]
  constructor
  · rintro ⟨e, he, heq⟩
    cases e <;> simp only [reduceCtorEq, Option.some.injEq, Prod.mk.injEq] at heq
    obtain ⟨rfl, rfl⟩ := heq
    exact he
  · intro he
    exact ⟨_, he, rfl⟩

theorem mem_returns {es : List Event} {id : Nat} :
    id ∈ returns es ↔ ∃ outcome, Event.returned id outcome ∈ es := by
  simp only [returns, List.mem_filterMap]
  constructor
  · rintro ⟨e, he, heq⟩
    cases e <;> simp only [reduceCtorEq, Option.some.injEq] at heq
    next outcome => exact ⟨outcome, heq ▸ he⟩
  · rintro ⟨outcome, he⟩
    exact ⟨_, he, rfl⟩

/-! ### Places in a history -/

/-- Two ways to cut a list in two at an element: one cut lies before the other, unless they are the
same. -/
theorem cut_cases {α : Type} {p p' r r' : List α} {a a' : α} (h : p ++ a :: r = p' ++ a' :: r') :
    (p = p' ∧ a = a' ∧ r = r') ∨ (∃ t, p' = p ++ a :: t ∧ r = t ++ a' :: r') ∨
      ∃ t, p = p' ++ a' :: t ∧ r' = t ++ a :: r := by
  rcases List.append_eq_append_iff.1 h with ⟨t, hp, hr⟩ | ⟨t, hp, hr⟩
  · cases t with
    | nil =>
        simp only [List.nil_append, List.cons.injEq] at hr
        simp only [List.append_nil] at hp
        exact .inl ⟨hp.symm, hr.1, hr.2⟩
    | cons b t =>
        simp only [List.cons_append, List.cons.injEq] at hr
        exact .inr (.inl ⟨t, hr.1 ▸ hp, hr.2⟩)
  · cases t with
    | nil =>
        simp only [List.nil_append, List.cons.injEq] at hr
        simp only [List.append_nil] at hp
        exact .inl ⟨hp, hr.1.symm, hr.2.symm⟩
    | cons b t =>
        simp only [List.cons_append, List.cons.injEq] at hr
        exact .inr (.inr ⟨t, hr.1 ▸ hp, hr.2⟩)

/-- The last event of a history is the one at the cut, or lies behind it. -/
theorem snoc_cut {α : Type} {es p r : List α} {e a : α} (h : es ++ [e] = p ++ a :: r) :
    (es = p ∧ e = a ∧ r = []) ∨ ∃ r', r = r' ++ [e] ∧ es = p ++ a :: r' := by
  rcases cut_cases h with ⟨hp, ha, hr⟩ | ⟨t, -, hr⟩ | ⟨t, hp, hr⟩
  · exact .inl ⟨hp, ha, hr.symm⟩
  · simp at hr
  · exact .inr ⟨t, hr, hp⟩

/-- No request is started twice, so a start has one place. -/
theorem start_unique {before since before' since' : List Event} {id : Nat} {method method' : String}
    (honce : (starts (before ++ .started id method :: since)).Nodup)
    (heq : before ++ .started id method :: since = before' ++ .started id method' :: since') :
    before = before' ∧ method = method' ∧ since = since' := by
  rcases cut_cases heq with ⟨hp, ha, hr⟩ | ⟨t, -, hr⟩ | ⟨t, hp, -⟩
  · simp only [Event.started.injEq, true_and] at ha
    exact ⟨hp, ha, hr⟩
  · subst hr
    simp [List.nodup_append] at honce
  · subst hp
    simp [List.nodup_append] at honce

theorem arrival_unique {before after before' after' : List Event} {m m' : Json}
    (heq : before ++ .received m :: after = before' ++ .received m' :: after')
    (hcount : (arrivals before).length = (arrivals before').length) :
    before = before' ∧ m = m' := by
  rcases cut_cases heq with ⟨hp, ha, -⟩ | ⟨t, hp, -⟩ | ⟨t, hp, -⟩
  · simp only [Event.received.injEq] at ha
    exact ⟨hp, ha⟩
  · subst hp
    simp at hcount
  · subst hp
    simp at hcount

/-! ### Growing histories -/

theorem Outstanding.start (es : List Event) (id : Nat) (method : String) :
    Outstanding (es ++ [.started id method]) id :=
  ⟨es, method, [], rfl, by simp, by simp⟩

theorem Outstanding.snoc {es : List Event} {id : Nat} {e : Event} (h : Outstanding es id)
    (hreturned : ∀ outcome, e ≠ .returned id outcome)
    (hreceived : ∀ m, e = .received m → Message.answered? m ≠ some id) :
    Outstanding (es ++ [e]) id := by
  obtain ⟨before, method, since, rfl, hnoReturn, hnoAnswer⟩ := h
  refine ⟨before, method, since ++ [e], by simp, fun outcome hmem => ?_, fun m hmem => ?_⟩
  · rcases List.mem_append.1 hmem with hmem | hmem
    · exact hnoReturn outcome hmem
    · exact hreturned outcome (List.mem_singleton.1 hmem).symm
  · rcases List.mem_append.1 hmem with hmem | hmem
    · exact hnoAnswer m hmem
    · exact hreceived m (List.mem_singleton.1 hmem).symm

theorem Outstanding.mem_starts {es : List Event} {id : Nat} (h : Outstanding es id) :
    id ∈ starts es := by
  obtain ⟨before, method, since, rfl, -⟩ := h
  simp

/-- A start that is not the last event stood there before. -/
theorem cut_of_snoc {es before since : List Event} {e : Event} {id : Nat} {method : String}
    (hstarts : starts [e] = []) (h : es ++ [e] = before ++ .started id method :: since) :
    ∃ since', since = since' ++ [e] ∧ es = before ++ .started id method :: since' := by
  rcases snoc_cut h with ⟨-, rfl, -⟩ | hcut
  · cases hstarts
  · exact hcut

theorem Outstanding.of_snoc {es : List Event} {e : Event} {id : Nat} (hstarts : starts [e] = [])
    (h : Outstanding (es ++ [e]) id) :
    Outstanding es id ∧ ∀ m, e = .received m → Message.answered? m ≠ some id := by
  obtain ⟨before, method, since, heq, hreturned, hreceived⟩ := h
  obtain ⟨since, rfl, rfl⟩ := cut_of_snoc hstarts heq
  refine ⟨⟨before, method, since, rfl, fun outcome hmem => ?_, fun m hmem => ?_⟩, ?_⟩
  · exact hreturned outcome (List.mem_append_left _ hmem)
  · exact hreceived m (List.mem_append_left _ hmem)
  · rintro m rfl
    exact hreceived m (by simp)

theorem AnsweredBy.now {es : List Event} {id : Nat} {m : Json}
    (hanswer : Message.answered? m = some id) (h : Outstanding es id) :
    AnsweredBy (es ++ [.received m]) id (arrivals es).length m :=
  ⟨es, [], rfl, rfl, hanswer, h⟩

theorem AnsweredBy.append {es : List Event} {id arrival : Nat} {m : Json}
    (h : AnsweredBy es id arrival m) (fs : List Event) : AnsweredBy (es ++ fs) id arrival m := by
  obtain ⟨before, after, rfl, hcount, hanswer, hout⟩ := h
  exact ⟨before, after ++ fs, by simp, hcount, hanswer, hout⟩

theorem AnsweredBy.arrival_lt {es : List Event} {id arrival : Nat} {m : Json}
    (h : AnsweredBy es id arrival m) : arrival < (arrivals es).length := by
  obtain ⟨before, after, rfl, hcount, -⟩ := h
  simp
  omega

theorem AnsweredBy.id_unique {es : List Event} {id id' arrival : Nat} {m m' : Json}
    (h : AnsweredBy es id arrival m) (h' : AnsweredBy es id' arrival m') : id = id' := by
  obtain ⟨before, after, rfl, hcount, hanswer, -⟩ := h
  obtain ⟨before', after', heq, hcount', hanswer', -⟩ := h'
  obtain ⟨-, rfl⟩ := arrival_unique heq (hcount.trans hcount'.symm)
  exact Option.some.inj (hanswer.symm.trans hanswer')

/-- Once a request is answered it is no longer outstanding, whatever comes later. -/
theorem Outstanding.not_after_answer {es after : List Event} {id : Nat} {m : Json}
    (honce : (starts (es ++ .received m :: after)).Nodup) (hout : Outstanding es id)
    (hanswer : Message.answered? m = some id) : ¬ Outstanding (es ++ .received m :: after) id := by
  rintro ⟨before', method', since', heq, -, hnoAnswer⟩
  obtain ⟨before, method, since, rfl, -, -⟩ := hout
  have hsplit : before ++ .started id method :: (since ++ .received m :: after)
      = before' ++ .started id method' :: since' := by
    rw [← heq]
    simp
  obtain ⟨-, -, rfl⟩ := start_unique (by simpa using honce) hsplit
  exact hnoAnswer m (by simp) hanswer

/-- A request that came back is outstanding no more, where requests come back after their starts. -/
theorem Outstanding.not_after_return {es : List Event} {id : Nat} (hout : Outstanding es id)
    (honce : (starts es).Nodup)
    (horder : ∀ before after, es = before ++ after → ∀ id ∈ returns before, id ∈ starts before) :
    id ∉ returns es := by
  intro hreturned
  obtain ⟨before, method, since, rfl, hnoReturn, -⟩ := hout
  obtain ⟨outcome, hmem⟩ := mem_returns.1 hreturned
  -- the return stands before the start, and so does another start
  have hbefore : id ∈ returns before := by
    rcases List.mem_append.1 hmem with hmem | hmem
    · exact mem_returns.2 ⟨outcome, hmem⟩
    · rcases List.mem_cons.1 hmem with hmem | hmem
      · cases hmem
      · exact absurd hmem (hnoReturn outcome)
  have hstarted : id ∈ starts before := horder before _ rfl id hbefore
  rw [starts_append, starts_started] at honce
  exact (List.nodup_append.1 honce).2.2 id hstarted id List.mem_cons_self rfl

theorem AnsweredBy.arrival_unique {es : List Event} {id arrival arrival' : Nat} {m m' : Json}
    (honce : (starts es).Nodup) (h : AnsweredBy es id arrival m)
    (h' : AnsweredBy es id arrival' m') : arrival = arrival' := by
  obtain ⟨before, after, rfl, hcount, hanswer, hout⟩ := h
  obtain ⟨before', after', heq, hcount', hanswer', hout'⟩ := h'
  rcases cut_cases heq with ⟨rfl, -, -⟩ | ⟨t, rfl, rfl⟩ | ⟨t, rfl, rfl⟩
  · exact hcount.symm.trans hcount'
  · refine absurd hout' (hout.not_after_answer ?_ hanswer)
    exact honce.sublist (by simp)
  · refine absurd hout (hout'.not_after_answer ?_ hanswer')
    exact honce.sublist (by simp)

/-- An answered request is not outstanding. -/
theorem Outstanding.not_answeredBy {es : List Event} {id arrival : Nat} {m : Json}
    (h : Outstanding es id) (honce : (starts es).Nodup) : ¬ AnsweredBy es id arrival m := by
  rintro ⟨before, after, rfl, -, hanswer, hout⟩
  exact hout.not_after_answer honce hanswer h

/-- A message that arrived when no request waited for it is nobody's answer. -/
theorem AnsweredBy.outstanding_at {before after : List Event} {id arrival : Nat} {m m' : Json}
    (h : AnsweredBy (before ++ .received m :: after) id arrival m')
    (hcount : (arrivals before).length = arrival) :
    Message.answered? m = some id ∧ Outstanding before id := by
  obtain ⟨before', after', heq, hcount', hanswer, hout⟩ := h
  obtain ⟨rfl, rfl⟩ := LookupBench.arrival_unique heq (hcount.trans hcount'.symm)
  exact ⟨hanswer, hout⟩

end LookupBench
