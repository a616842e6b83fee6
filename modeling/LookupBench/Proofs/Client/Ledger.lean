import LookupBench.Proofs.Client.Request

/-!
# What becomes of the queue of a client

A ledger follows the writer: what it took out of the queue, what of that it wrote whole, and whether it
ended before it came to a close. A client does not know as much; the ledger goes along with it, move by
move, so that what was ever queued can be told from the ledger and the client together.
-/

namespace LookupBench

open Relation

/-- What became of the queue of a client so far. -/
structure Ledger where
  /-- What left the queue, in order: what the writer took, and what was lost when it ended. -/
  taken : List Outbound := []
  /-- The messages that the writer wrote whole. -/
  written : List Json := []
  /-- Whether the writer ended before it came to a close. -/
  broken : Bool := false

namespace Outbound

/-- The messages in front of the first close. -/
def beforeClose : List Outbound → List Json
  | .message m :: rest => m :: beforeClose rest
  | _ => []

/-- The message of a method, if it is one. -/
def said? : Outbound → Option Json
  | .message m => if (Message.method? m).isSome then some m else none
  | .close => none

theorem beforeClose_messages (ms : List Json) (items : List Outbound) :
    beforeClose (ms.map .message ++ items) = ms ++ beforeClose items := by
  induction ms with
  | nil => rfl
  | cons m ms ih => exact congrArg (m :: ·) ih

theorem prefix_beforeClose (items more : List Outbound) :
    beforeClose items <+: beforeClose (items ++ more) := by
  induction items with
  | nil => exact List.nil_prefix
  | cons item items ih =>
      cases item with
      | close => exact List.prefix_refl _
      | message m => exact (List.prefix_cons_inj m).2 ih

/-- Items without a method: answers to requests of the server. -/
def Mute (items : List Outbound) : Prop := ∀ item ∈ items, item ≠ .close ∧ item.said? = none

theorem Mute.filterMap {items : List Outbound} (h : Mute items) : items.filterMap said? = [] :=
  List.filterMap_eq_nil_iff.2 fun item hmem => (h item hmem).2

end Outbound

open Outbound

namespace Ledger

/-- Whatever was queued, in order. -/
def queued (l : Ledger) (c : Client) : List Outbound := l.taken ++ c.boxes.outbox

/-- The messages with a method among them: those of the caller. -/
def said (l : Ledger) (c : Client) : List Json := (l.queued c).filterMap said?

/-- One move of the writer or of a reader, as the ledger follows it. -/
inductive Move : Ledger × Client → Ledger × Client → Prop where
  | write {l : Ledger} {c c' : Client} {m : Json} (hnext : c.nextOutbound = some (.message m, c')) :
      Move (l, c)
        ({ l with taken := l.taken ++ [.message m], written := l.written ++ [m] }, c')
  /-- The writer comes to a close. What is queued behind it is lost. -/
  | close {l : Ledger} {c c' : Client} (hnext : c.nextOutbound = some (.close, c')) :
      Move (l, c) ({ l with taken := l.taken ++ c.boxes.outbox }, c'.stopWriting)
  /-- The writer ends at any other moment, perhaps with a message half written. -/
  | breakOff (l : Ledger) (c : Client) :
      Move (l, c)
        ({ l with taken := l.taken ++ c.boxes.outbox, broken := l.broken || c.writing },
          c.stopWriting)
  | receive (l : Ledger) {c : Client} (m : Json) (hreading : c.reading = true) :
      Move (l, c) (l, c.receive m)
  | finish (l : Ledger) {c : Client} (hreading : c.reading = true) : Move (l, c) (l, c.endOfInput)
  | stopReading (l : Ledger) (c : Client) (refusal : Frame.Refusal) :
      Move (l, c) (l, c.stopReading refusal)
  | hear (l : Ledger) (c : Client) (bytes : Bytes) : Move (l, c) (l, c.hear bytes)
  | endOfErrors (l : Ledger) (c : Client) : Move (l, c) (l, c.endOfErrors)

/-- Any number of moves of the writer and the readers. -/
def Moves : Ledger × Client → Ledger × Client → Prop := ReflTransGen Move

/-- The moves that a ledger follows are those of the writer and the readers. -/
theorem Move.workerMoves {p q : Ledger × Client} (h : Move p q) :
    ReflTransGen WorkerMove p.2 q.2 := by
  cases h with
  | write hnext => exact .single (.aside (.write hnext))
  | close hnext => exact .tail (.single (.aside (.write hnext))) (.aside (.stopWriting _))
  | breakOff l c => exact .single (.aside (.stopWriting c))
  | receive l m hreading => exact .single (.receive m hreading)
  | finish l hreading => exact .single (.finish hreading)
  | stopReading l c refusal => exact .single (.aside (.stopReading c refusal))
  | hear l c bytes => exact .single (.aside (.hear c bytes))
  | endOfErrors l c => exact .single (.aside (.endOfErrors c))

theorem Moves.workerMoves {p q : Ledger × Client} (h : Moves p q) :
    ReflTransGen WorkerMove p.2 q.2 := by
  induction h with
  | refl => exact .refl
  | tail _ hmove ih => exact ih.trans hmove.workerMoves

end Ledger

/-! ### What holds of every ledger -/

/-- What a ledger says of a writer that is at work, and of one that has ended. -/
structure Ledger.Sound (l : Ledger) (c : Client) : Prop where
  working : c.writing = true → l.taken = l.written.map .message ∧ l.broken = false
  ended : c.writing = false → c.boxes.outbox = [] ∧ l.written <+: beforeClose l.taken ∧
    (l.broken = true ∨ .close ∈ l.taken)

/-- The caller has the same numbers to give out, and is as far with the end of the session. -/
structure Client.SameCaller (c c' : Client) : Prop where
  nextId : c'.nextId = c.nextId
  running : c'.running = c.running
  stopping : c'.stopping = c.stopping

theorem Client.SameCaller.refl (c : Client) : c.SameCaller c := ⟨rfl, rfl, rfl⟩

theorem Client.SameCaller.trans {c c' c'' : Client} (h : c.SameCaller c') (h' : c'.SameCaller c'') :
    c.SameCaller c'' :=
  ⟨h'.nextId.trans h.nextId, h'.running.trans h.running, h'.stopping.trans h.stopping⟩

theorem Client.nextOutbound_eq_some_iff {c c' : Client} {item : Outbound} :
    c.nextOutbound = some (item, c') ↔ ∃ rest, c.boxes.outbox = item :: rest ∧
      c' = { c with boxes := { c.boxes with outbox := rest } } := by
  unfold nextOutbound
  cases c.boxes.outbox with
  | nil => simp
  | cons item' rest => simp [and_assoc, eq_comm]

theorem Message.method?_answer (id result : Json) :
    Message.method? (Message.answer id result) = none := rfl

/-- What routing a message adds to the queue. -/
theorem Mailboxes.exists_outbox_route (writing : Bool) (m : Json) (boxes : Mailboxes) :
    ∃ replies, (boxes.route writing m).outbox = boxes.outbox ++ replies ∧ Mute replies ∧
      (writing = false → replies = []) := by
  have hnone : ∃ replies, boxes.outbox = boxes.outbox ++ replies ∧ Mute replies ∧
      (writing = false → replies = []) := ⟨[], by simp, by simp [Mute], fun _ => rfl⟩
  unfold route
  split
  next method id _ _ =>
    cases writing with
    | false => exact hnone
    | true =>
        refine ⟨[.message (Message.answer id (replyTo method m))], rfl, ?_, nofun⟩
        simp [Mute, said?, Message.method?_answer]
  next id _ _ =>
    unfold deliver
    split
    · split
      · exact hnone
      · exact hnone
    · exact hnone
  next => exact hnone

namespace Ledger

variable {p q : Ledger × Client}

/-- One move adds nothing to the queue but answers to the server, and while there is no writer not
even those. -/
theorem Move.queued (h : Move p q) : ∃ replies, q.1.queued q.2 = p.1.queued p.2 ++ replies ∧
    Mute replies ∧ (p.2.writing = false → replies = []) := by
  have hsame : ∀ {items : List Outbound}, items = p.1.queued p.2 → ∃ replies,
      items = p.1.queued p.2 ++ replies ∧ Mute replies ∧ (p.2.writing = false → replies = []) :=
    fun heq => ⟨[], by simp [heq], by simp [Mute], fun _ => rfl⟩
  cases h with
  | write hnext =>
      obtain ⟨rest, houtbox, rfl⟩ := Client.nextOutbound_eq_some_iff.1 hnext
      exact hsame (by simp [Ledger.queued, houtbox])
  | close hnext => exact hsame (by simp [Ledger.queued, Client.stopWriting])
  | breakOff l c => exact hsame (by simp [Ledger.queued, Client.stopWriting])
  | @receive l c m hreading =>
      obtain ⟨replies, hreplies, hmute, hnone⟩ :=
        Mailboxes.exists_outbox_route c.writing m c.boxes
      exact ⟨replies, by simp [Ledger.queued, Client.receive, hreplies], hmute, hnone⟩
  | finish l hreading => exact hsame rfl
  | stopReading l c refusal => exact hsame rfl
  | hear l c bytes => exact hsame rfl
  | endOfErrors l c => exact hsame rfl

theorem Move.sameCaller (h : Move p q) : p.2.SameCaller q.2 := by
  cases h with
  | write hnext =>
      obtain ⟨rest, -, rfl⟩ := Client.nextOutbound_eq_some_iff.1 hnext
      exact ⟨rfl, rfl, rfl⟩
  | close hnext =>
      obtain ⟨rest, -, rfl⟩ := Client.nextOutbound_eq_some_iff.1 hnext
      exact ⟨rfl, rfl, rfl⟩
  | breakOff => exact ⟨rfl, rfl, rfl⟩
  | receive => exact ⟨rfl, rfl, rfl⟩
  | finish => exact ⟨rfl, rfl, rfl⟩
  | stopReading => exact ⟨rfl, rfl, rfl⟩
  | hear => exact ⟨rfl, rfl, rfl⟩
  | endOfErrors => exact ⟨rfl, rfl, rfl⟩

theorem Move.broken (h : Move p q) (hbroken : p.1.broken = true) : q.1.broken = true := by
  cases h with
  | breakOff l c => exact Bool.or_eq_true_iff.2 (.inl hbroken)
  | write => exact hbroken
  | close => exact hbroken
  | receive => exact hbroken
  | finish => exact hbroken
  | stopReading => exact hbroken
  | hear => exact hbroken
  | endOfErrors => exact hbroken

/-- Whatever leaves the writer and the queue alone leaves the ledger right. -/
theorem Sound.congr {l : Ledger} {c c' : Client} (h : l.Sound c) (hwriting : c'.writing = c.writing)
    (houtbox : c'.writing = false → c'.boxes.outbox = c.boxes.outbox) : l.Sound c' where
  working hw := h.working (hwriting ▸ hw)
  ended hw := by
    rw [houtbox hw]
    exact h.ended (hwriting ▸ hw)

/-- When the writer ends, the ledger has all that was queued. -/
theorem Sound.stop {l : Ledger} {c : Client} (h : l.Sound c) {broken : Bool}
    (hbroken : broken = true ∨ .close ∈ l.queued c) :
    Sound { l with taken := l.queued c, broken } c.stopWriting where
  working hw := by cases hw
  ended _ := by
    refine ⟨rfl, ?_, hbroken⟩
    cases hw : c.writing with
    | true =>
        rw [queued, (h.working hw).1, beforeClose_messages]
        exact List.prefix_append _ _
    | false => exact (h.ended hw).2.1.trans (prefix_beforeClose _ _)

theorem Move.sound (h : Move p q) (hsound : p.1.Sound p.2) : q.1.Sound q.2 := by
  cases h with
  | @write l c c' m hnext =>
      obtain ⟨rest, houtbox, rfl⟩ := Client.nextOutbound_eq_some_iff.1 hnext
      constructor
      · intro hw
        obtain ⟨htaken, hbroken⟩ := hsound.working hw
        exact ⟨by simpa using htaken, hbroken⟩
      · intro hw
        rw [(hsound.ended hw).1] at houtbox
        cases houtbox
  | @close l c c' hnext =>
      obtain ⟨rest, houtbox, rfl⟩ := Client.nextOutbound_eq_some_iff.1 hnext
      exact hsound.stop (.inr (by simp [Ledger.queued, houtbox]))
  | breakOff l c =>
      refine hsound.stop ?_
      cases hw : c.writing with
      | true => exact .inl (Bool.or_true _)
      | false =>
          rcases (hsound.ended hw).2.2 with hbroken | hclose
          · exact .inl (by simpa using hbroken)
          · exact .inr (List.mem_append_left _ hclose)
  | @receive l c m hreading =>
      refine hsound.congr rfl fun hw => ?_
      obtain ⟨replies, hreplies, -, hnone⟩ := Mailboxes.exists_outbox_route c.writing m c.boxes
      rw [Client.receive, hreplies, hnone hw, List.append_nil]
  | finish => exact hsound.congr rfl fun _ => rfl
  | stopReading => exact hsound.congr rfl fun _ => rfl
  | hear => exact hsound.congr rfl fun _ => rfl
  | endOfErrors => exact hsound.congr rfl fun _ => rfl

/-- What a run of moves leaves as it was. -/
structure Follows (p q : Ledger × Client) : Prop where
  sound : q.1.Sound q.2
  caller : p.2.SameCaller q.2
  queued : ∃ replies, q.1.queued q.2 = p.1.queued p.2 ++ replies ∧ Mute replies
  broken : p.1.broken = true → q.1.broken = true

theorem Moves.follows (h : Moves p q) (hsound : p.1.Sound p.2) : Follows p q := by
  induction h with
  | refl => exact ⟨hsound, .refl _, ⟨[], by simp, by simp [Mute]⟩, id⟩
  | tail _ hmove ih =>
      obtain ⟨replies, hqueued, hmute⟩ := ih.queued
      obtain ⟨more, hqueued', hmute', -⟩ := hmove.queued
      refine ⟨hmove.sound ih.sound, ih.caller.trans hmove.sameCaller, ⟨replies ++ more, ?_, ?_⟩,
        fun hbroken => hmove.broken (ih.broken hbroken)⟩
      · rw [hqueued', hqueued, List.append_assoc]
      · exact fun item hmem => (List.mem_append.1 hmem).elim (hmute item) (hmute' item)

/-- The caller of a session is the only one who speaks of methods. -/
theorem Follows.said (h : Follows p q) : q.1.said q.2 = p.1.said p.2 := by
  obtain ⟨replies, hqueued, hmute⟩ := h.queued
  rw [Ledger.said, hqueued, List.filterMap_append, hmute.filterMap, List.append_nil, Ledger.said]

theorem Follows.close_iff (h : Follows p q) :
    .close ∈ q.1.queued q.2 ↔ .close ∈ p.1.queued p.2 := by
  obtain ⟨replies, hqueued, hmute⟩ := h.queued
  rw [hqueued, List.mem_append, or_iff_left fun hmem => (hmute _ hmem).1 rfl]

/-- Nothing behind a close is written. -/
theorem Sound.written {l : Ledger} {c : Client} (h : l.Sound c) :
    l.written <+: beforeClose (l.queued c) := by
  cases hw : c.writing with
  | true =>
      rw [queued, (h.working hw).1, beforeClose_messages]
      exact List.prefix_append _ _
  | false => exact (h.ended hw).2.1.trans (prefix_beforeClose _ _)

end Ledger

/-! ### Surroundings that keep a ledger -/

open Ledger

variable {σ : Type}

/-- The ledger goes on as what is around a client does something: what has to do with the ledger
still does. -/
def Ledger.Kept (R : σ → Ledger → Prop) (f : σ × Client → σ × Client) : Prop :=
  ∀ l x, R x.1 l → ∃ l', R (f x).1 l' ∧ Moves (l, x.2) (l', (f x).2)

/-- What goes on around a caller are the moves of its writer and its readers, and the server reads
what was written, in order. -/
structure Surroundings.Keeps (s : Surroundings σ) (heard : σ → List Json) (R : σ → Ledger → Prop) :
    Prop where
  heard : ∀ outside l, R outside l → heard outside <+: l.written
  settle : Kept R s.settle
  await : ∀ id limit, Kept R (s.await id limit)
  rest : ∀ duration, Kept R (s.rest duration)
  finish : Kept R s.finish

/-- Whoever keeps a ledger of a client changes it by the moves of its writer and its readers alone. -/
theorem Surroundings.Keeps.lawful {s : Surroundings σ} {heard : σ → List Json}
    {R : σ → Ledger → Prop} (h : s.Keeps heard R) (hsome : ∀ outside, ∃ l, R outside l) :
    s.Lawful := by
  have hmoves : ∀ {f : σ × Client → σ × Client}, Kept R f →
      ∀ x, ReflTransGen WorkerMove x.2 (f x).2 := fun hkept x => by
    obtain ⟨l, hR⟩ := hsome x.1
    obtain ⟨l', -, hmoves⟩ := hkept l x hR
    exact hmoves.workerMoves
  exact
    { settle := hmoves h.settle
      await := fun id limit => hmoves (h.await id limit)
      rest := fun duration => hmoves (h.rest duration)
      finish := hmoves h.finish }

end LookupBench
