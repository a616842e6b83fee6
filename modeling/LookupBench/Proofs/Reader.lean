import LookupBench.Proofs.Client.Exchange
import LookupBench.Proofs.Stream
import LookupBench.Wire

/-!
# The reader at the end of a stream

What a server writes reaches the reader in pieces. However it is cut, the client takes the messages
of the whole, and then the reader stops: in order, which wakes everybody who waits, or at a length
that there is no buffer for. Then it wakes nobody. Where no buffer can be so long, who was not answered
goes on waiting; where there is no memory for one, the whole program has ended.
-/

namespace LookupBench

/-! ### Messages and waiters -/

namespace Client

/-- Receive messages, one after the other. -/
def receiveAll (ms : List Json) (c : Client) : Client := ms.foldl (fun c m => c.receive m) c

@[simp] theorem receiveAll_reading (ms : List Json) (c : Client) :
    (receiveAll ms c).reading = c.reading := by
  induction ms generalizing c with
  | nil => rfl
  | cons m ms ih => exact ih (c.receive m)

@[simp] theorem receiveAll_aborted (ms : List Json) (c : Client) :
    (receiveAll ms c).aborted = c.aborted := by
  induction ms generalizing c with
  | nil => rfl
  | cons m ms ih => exact ih (c.receive m)

theorem receiveAll_append (ms ns : List Json) (c : Client) :
    receiveAll (ms ++ ns) c = receiveAll ns (receiveAll ms c) := List.foldl_append

theorem isWaiting_eq_true_iff {id : Nat} {c : Client} :
    c.isWaiting id = true ↔ (∀ m, (id, m) ∉ c.boxes.answers) ∧ id ∈ c.boxes.pending := by
  unfold isWaiting look
  cases hfind : c.boxes.answers.find? fun a => a.1 = id with
  | some a =>
      have hid := List.find?_some hfind
      have hmem := List.mem_of_find?_eq_some hfind
      simp only [decide_eq_true_eq] at hid
      simp only [Bool.false_eq_true, false_iff, not_and]
      exact fun hnone => absurd (hid ▸ hmem : (id, a.2) ∈ c.boxes.answers) (hnone a.2)
  | none =>
      have hnone : ∀ m, (id, m) ∉ c.boxes.answers := fun m hmem => by
        simpa using List.find?_eq_none.1 hfind _ hmem
      by_cases hpending : id ∈ c.boxes.pending <;> simp [hpending, hnone]

/-- A message that is no answer to a request leaves it waiting. -/
theorem isWaiting_receive {id : Nat} {m : Json} {c : Client} (h : c.isWaiting id = true)
    (hm : Message.answered? m ≠ some id) : (c.receive m).isWaiting id = true := by
  rw [isWaiting_eq_true_iff] at h ⊢
  by_cases hwaited : ∃ id', Message.answered? m = some id' ∧ id' ∈ c.boxes.pending
  · obtain ⟨id', hanswer, hpending⟩ := hwaited
    have hne : id ≠ id' := fun heq => hm (heq ▸ hanswer)
    rw [receive, Mailboxes.route_eq_of_mem _ hanswer hpending]
    simpa [Mailboxes.unlist, Mailboxes.handOver, hne] using h
  · have hnone : ∀ id', Message.answered? m = some id' → id' ∉ c.boxes.pending :=
      fun id' hanswer hmem => hwaited ⟨id', hanswer, hmem⟩
    obtain ⟨hpending, hanswers⟩ := Mailboxes.route_waiters_of_notMem c.boxes c.writing hnone
    rw [receive, hpending, hanswers]
    exact h

theorem isWaiting_receiveAll {id : Nat} {ms : List Json} {c : Client} (h : c.isWaiting id = true)
    (hms : ∀ m ∈ ms, Message.answered? m ≠ some id) : (receiveAll ms c).isWaiting id = true := by
  induction ms generalizing c with
  | nil => exact h
  | cons m ms ih =>
      obtain ⟨hm, hms⟩ := List.forall_mem_cons.1 hms
      exact ih (isWaiting_receive h hm) hms

end Client

namespace Wire

open LookupBench.Frame

variable {limit : Nat} {c : Client} {input : Bytes}

theorem mayGoOn_eq_false_iff {rest : Bytes} : mayGoOn input rest = false ↔ Ended input rest := by
  cases rest <;> simp [mayGoOn, Ended]

/-- The reader takes all messages that are whole. -/
theorem readWith_takes {fuel : Nat} (h : input.length < fuel) (c : Client) :
    ∃ ms left, Takes limit input ms left ∧
      ((read left limit = .finished ∧ readWith limit fuel input c = (left, c.receiveAll ms)) ∨
        ∃ refusal rest, read left limit = .refused refusal rest ∧ readWith limit fuel input c
          = (left, if mayGoOn left rest then c.receiveAll ms
              else (c.receiveAll ms).stopReading refusal)) := by
  induction fuel generalizing input c with
  | zero => omega
  | succ fuel ih =>
      rw [readWith]
      split
      next m rest hread =>
        have hless : rest.length < fuel :=
          Nat.lt_of_lt_of_le ((readsTo_of_read hread).length_lt _ _ rfl) (Nat.le_of_lt_succ h)
        obtain ⟨ms, left, htakes, hend⟩ := ih hless (c.receive m)
        exact ⟨m :: ms, left, .cons hread htakes, hend⟩
      next hread => exact ⟨[], input, .nil _, .inl ⟨hread, rfl⟩⟩
      next refusal rest hread =>
        exact ⟨[], input, .nil _, .inr ⟨refusal, rest, hread, rfl⟩⟩

/-- Where the reader is when so much input has come: it waits for more, or it broke off. -/
inductive Fed (limit : Nat) (c : Client) (input : Bytes) : Wire × Client → Prop where
  | reading {w : Wire} {ms : List Json} {ending : Ending} (hlimit : w.limit = limit)
      (htakes : Takes limit input ms w.unread) (hend : EndsWith limit w.unread ending) :
      Fed limit c input (w, c.receiveAll ms)
  | broken {w : Wire} {ms : List Json} {left rest : Bytes} {refusal : Refusal}
      (htakes : Takes limit input ms left) (hread : read left limit = .refused refusal rest)
      (hended : Ended left rest) : Fed limit c input (w, (c.receiveAll ms).stopReading refusal)

theorem Fed.output {state : Wire × Client} (h : Fed limit c input state)
    (hreading : c.reading = true) (bytes : Bytes) :
    Fed limit c (input ++ bytes) (deliver (.output bytes) state) := by
  cases h with
  | @reading w ms ending hlimit htakes hend =>
      subst hlimit
      rw [deliver, if_pos (by rw [Client.receiveAll_reading, hreading])]
      obtain ⟨ns, left, htakes', hcome⟩ :=
        readWith_takes (Nat.lt_succ_self (w.unread ++ bytes).length) (c.receiveAll ms)
      -- the messages that were whole before are the same with more octets behind them
      have hall := (htakes.append bytes).trans htakes'
      rcases hcome with ⟨hread, heq⟩ | ⟨refusal, rest, hread, heq⟩
      · have hend : EndsWith w.limit left .finished := hread
        dsimp only
        rw [heq, ← Client.receiveAll_append]
        exact .reading rfl hall hend
      · have hend : EndsWith w.limit left (.refused refusal) := ⟨rest, hread⟩
        dsimp only
        rw [heq, ← Client.receiveAll_append]
        cases hgo : mayGoOn left rest with
        | true => exact .reading rfl hall hend
        | false => exact .broken hall hread (mayGoOn_eq_false_iff.1 hgo)
  | @broken w ms left rest refusal htakes hread hended =>
      rw [deliver]
      refine .broken (htakes.append bytes) ((readsTo_of_read hread).append hended bytes).eq ?_
      -- a block that is over stays over with more octets behind it
      rcases hended with hrest | hlast
      · exact .inl (by simp [hrest])
      · by_cases hbytes : bytes = []
        · rw [hbytes, List.append_nil]
          exact .inr hlast
        · exact .inl (by simp [hbytes])

theorem Fed.outputs {state : Wire × Client} (h : Fed limit c input state)
    (hreading : c.reading = true) (chunks : List Bytes) : Fed limit c (input ++ chunks.flatten)
      (chunks.foldl (fun state bytes => deliver (.output bytes) state) state) := by
  induction chunks generalizing input state with
  | nil => simpa using h
  | cons bytes chunks ih =>
      rw [List.flatten_cons, ← List.append_assoc]
      exact ih (h.output hreading bytes)

/-- At the end of the input the reader has taken its messages, and stops. -/
theorem Fed.exit {state : Wire × Client} (h : Fed limit c input state)
    (hreading : c.reading = true) (code : Nat) :
    (deliver (.exit code) state).2 =
      match (readAll input limit).2 with
      | .finished => (c.receiveAll (messages input limit)).endOfInput.endOfErrors
      | .refused refusal =>
        ((c.receiveAll (messages input limit)).stopReading refusal).endOfErrors := by
  obtain ⟨all, htakesAll, hendAll⟩ := takes_messages input limit
  cases h with
  | @reading w ms ending hlimit htakes hend =>
      subst hlimit
      obtain ⟨rfl, rfl⟩ := htakes.unique hend htakesAll hendAll
      rw [deliver, if_pos (by rw [Client.receiveAll_reading, hreading])]
      dsimp only
      cases hending : (readAll input w.limit).2 with
      | finished =>
          rw [hending] at hend
          rw [finishReading, show read w.unread w.limit = .finished from hend]
      | refused refusal =>
          rw [hending] at hend
          obtain ⟨rest, hread⟩ := hend
          rw [finishReading, hread]
  | @broken w ms left rest refusal htakes hread hended =>
      have hend : EndsWith limit left (.refused refusal) := ⟨rest, hread⟩
      obtain ⟨rfl, hending⟩ := htakes.unique hend htakesAll hendAll
      rw [← hending]
      rfl

/-- What a server writes, in whatever pieces, until it ends. -/
def hearOut (chunks : List Bytes) (code : Nat) (state : Wire × Client) : Client :=
  (deliver (.exit code)
    (chunks.foldl (fun state bytes => deliver (.output bytes) state) state)).2

/-- Where the reader is before anything has come. -/
theorem Fed.start {w : Wire} {c : Client} (hunread : w.unread = []) : Fed w.limit c [] (w, c) := by
  have htakes : Takes w.limit [] [] w.unread := by
    rw [hunread]
    exact .nil []
  have hend : EndsWith w.limit w.unread .finished := by
    rw [hunread]
    rfl
  exact .reading rfl htakes hend

/-- A reader that starts with nothing unread takes the messages of the whole stream, and stops. -/
theorem hearOut_eq (chunks : List Bytes) (code : Nat) {w : Wire} {c : Client}
    (hunread : w.unread = []) (hreading : c.reading = true) :
    hearOut chunks code (w, c) =
      match (readAll chunks.flatten w.limit).2 with
      | .finished => (c.receiveAll (messages chunks.flatten w.limit)).endOfInput.endOfErrors
      | .refused refusal =>
        ((c.receiveAll (messages chunks.flatten w.limit)).stopReading refusal).endOfErrors := by
  have hfed := (Fed.start hunread).outputs hreading chunks
  rw [List.nil_append] at hfed
  exact hfed.exit hreading code

/-- Whatever octets a server writes and however they are cut: reading comes to an end after no more
calls than there are octets, and one. It comes to the end of the input, unless a block that is come to
gives a length that there is no buffer for, and then to the reason why there is none. At the end of the
input nobody waits any more, and no waiter is left. At a length that no buffer has, the reader stops as
well, but whoever was not answered is left waiting. At one that there is no memory for, the whole
program ends. -/
theorem reader_stops (chunks : List Bytes) (code : Nat) {w : Wire} {c : Client}
    (hunread : w.unread = []) (hreading : c.reading = true) :
    (∃ left, Takes w.limit chunks.flatten (messages chunks.flatten w.limit) left ∧
      EndsWith w.limit left (readAll chunks.flatten w.limit).2) ∧
    (messages chunks.flatten w.limit).length ≤ chunks.flatten.length ∧
    (∀ refusal, (readAll chunks.flatten w.limit).2 = .refused refusal ↔
      Refuses w.limit refusal chunks.flatten) ∧
    (hearOut chunks code (w, c)).reading = false ∧
    ((∀ refusal, ¬Refuses w.limit refusal chunks.flatten) →
      (hearOut chunks code (w, c)).aborted = c.aborted ∧
      (hearOut chunks code (w, c)).boxes.pending = [] ∧
      ∀ id, (hearOut chunks code (w, c)).isWaiting id = false) ∧
    (Refuses w.limit .oversized chunks.flatten →
      (hearOut chunks code (w, c)).aborted = c.aborted ∧
      ∀ id, c.isWaiting id = true →
        (∀ m ∈ messages chunks.flatten w.limit, Message.answered? m ≠ some id) →
          (hearOut chunks code (w, c)).isWaiting id = true) ∧
    ∀ length, Refuses w.limit (.exhausted length) chunks.flatten →
      (hearOut chunks code (w, c)).aborted = true := by
  have hexit := hearOut_eq chunks code hunread hreading
  obtain ⟨left, htakes, hend⟩ := takes_messages chunks.flatten w.limit
  have hrefused := ending_eq_refused_iff chunks.flatten w.limit
  have hcount := htakes.length_le
  refine ⟨⟨left, htakes, hend⟩, by omega, hrefused, ?_, fun hfits => ?_, fun hbig => ?_,
    fun length hbig => ?_⟩
  · rw [hexit]
    split <;> rfl
  · have hfinished : (readAll chunks.flatten w.limit).2 = .finished := by
      cases hending : (readAll chunks.flatten w.limit).2 with
      | finished => rfl
      | refused refusal => exact absurd ((hrefused refusal).1 hending) (hfits refusal)
    rw [hexit, hfinished]
    refine ⟨Client.receiveAll_aborted _ _, rfl, fun id => ?_⟩
    rw [Bool.eq_false_iff, ne_eq, Client.isWaiting_eq_true_iff]
    exact fun h => absurd h.2 (by simp [Client.endOfErrors, Client.endOfInput, Mailboxes.abandon])
  · rw [hexit, (hrefused _).2 hbig]
    refine ⟨(Bool.or_false _).trans (Client.receiveAll_aborted _ _), fun id hid hms => ?_⟩
    have hwaits := Client.isWaiting_receiveAll hid hms
    rw [Client.isWaiting_eq_true_iff] at hwaits ⊢
    exact hwaits
  · rw [hexit, (hrefused _).2 hbig]
    exact Bool.or_true _

/-- A block with the least length that no buffer has. -/
def hugeBlock : Bytes := Utf8.encode "Content-Length: 9223372036854775808\r\n\r\n"

def idle : Wire := .ofProcess (.script { steps := [] }) []

/-- A client with one request under way. -/
def asking : Client :=
  (Client.register { name := "a", root := [], trace := false, processId := 1 }).2

theorem readAll_hugeBlock : readAll [hugeBlock].flatten = ([], .refused .oversized) := by
  have h : (readAll [hugeBlock].flatten).2 = .refused .oversized ∧
      (readAll [hugeBlock].flatten).1.length = 0 := by
    decide +kernel
  exact Prod.ext (List.length_eq_zero_iff.1 h.2) h.1

/-- Not all that a server may write is read to its end, and then a waiter stays. -/
theorem waiter_stays_hugeBlock :
    (readAll [hugeBlock].flatten).2 ≠ .finished ∧
      (hearOut [hugeBlock] 0 (idle, asking)).boxes.pending ≠ [] := by
  decide +kernel

theorem reader_stops_hugeBlock :
    idle.unread = [] ∧ asking.reading = true ∧ asking.isWaiting 1 = true ∧
      Refuses idle.limit .oversized [hugeBlock].flatten ∧
      (hearOut [hugeBlock] 0 (idle, asking)).isWaiting 1 = true := by
  obtain ⟨-, -, hrefused, -, -, hwaits, -⟩ :=
    reader_stops [hugeBlock] 0 (w := idle) (c := asking) rfl rfl
  have hbig : Refuses idle.limit .oversized [hugeBlock].flatten :=
    (hrefused .oversized).1 (congrArg Prod.snd readAll_hugeBlock)
  have hnone : messages [hugeBlock].flatten idle.limit = [] :=
    congrArg (fun r => r.1.map Prod.fst) readAll_hugeBlock
  refine ⟨rfl, rfl, rfl, hbig, (hwaits hbig).2 1 rfl fun m hm => ?_⟩
  rw [hnone] at hm
  cases hm

example : (hearOut [Utf8.encode "Content-Length: 4611686018427387904\r\n\r\n"] 0
    ({ idle with limit := 2 ^ 47 }, asking)).aborted = true := by
  decide +kernel

end Wire

end LookupBench
