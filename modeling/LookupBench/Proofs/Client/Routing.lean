import LookupBench.Proofs.Reader
import Mathlib.Data.List.Induction

/-!
# Where messages go

A client sorts what its server says into three places. Where a message belongs is said here by its
shape alone, whatever value it is. Each message gets there, at whatever moment it comes; and so the
places hold, after any number of messages, just these: nothing is lost, doubled or made up, and what
a server asks for takes no waiter off the list.
-/

namespace LookupBench

/-! ### Where a message belongs -/

namespace Message

/-- Whether a message is kept for whoever looks through the notifications: it names a method, or
nobody is to be answered. -/
def isNotice (m : Json) : Bool :=
  match m.get? "method", m.get? "id" with
  | some (.string _), _ => true
  | _, none => true
  | _, some .null => true
  | _, some _ => false

/-- Whether the server waits for a reply. -/
def isRequest (m : Json) : Bool :=
  match m.get? "method", m.get? "id" with
  | some (.string _), some .null => false
  | some (.string _), some _ => true
  | _, _ => false

/-- What a server is told: of settings, null for each item that it lists. -/
def resultFor (m : Json) : Json :=
  match m.get? "method", (m.get? "params").bind (·.get? "items") with
  | some (.string "workspace/configuration"), some (.array items) =>
    .array (items.map fun _ => .null)
  | some (.string "workspace/configuration"), _ => .array []
  | _, _ => .null

/-- The reply to a request, under the id that the request has. -/
def reply (m : Json) : Json :=
  .object [("id", (m.get? "id").getD .null), ("jsonrpc", .string "2.0"), ("result", resultFor m)]

theorem isNotice_eq (m : Json) : isNotice m = ((method? m).isSome || (id? m).isNone) := by
  unfold isNotice method? id?
  rcases m.get? "method" with _ | (_ | _ | _ | _ | _ | _ | _) <;>
    rcases m.get? "id" with _ | (_ | _ | _ | _ | _ | _ | _) <;> rfl

theorem isRequest_eq (m : Json) : isRequest m = ((method? m).isSome && (id? m).isSome) := by
  unfold isRequest method? id?
  rcases m.get? "method" with _ | (_ | _ | _ | _ | _ | _ | _) <;>
    rcases m.get? "id" with _ | (_ | _ | _ | _ | _ | _ | _) <;> rfl

theorem method?_eq_some_iff {m : Json} {method : String} :
    method? m = some method ↔ m.get? "method" = some (.string method) := by
  unfold method?
  rcases m.get? "method" with _ | (_ | _ | _ | _ | _ | _ | _) <;> simp [Json.asString?]

theorem get?_of_id? {m id : Json} (h : id? m = some id) : m.get? "id" = some id :=
  (Option.filter_eq_some_iff.1 h).1

theorem isRequest_eq_false {m : Json} (h : isNotice m = false) : isRequest m = false := by
  rw [isNotice_eq] at h
  rw [isRequest_eq]
  cases hmethod : method? m with
  | none => rfl
  | some method => simp [hmethod] at h

/-- A message that answers a request is nobody's business but the waiter's. -/
theorem isNotice_eq_false_of_answered {m : Json} {n : Nat} (h : answered? m = some n) :
    isNotice m = false := by
  unfold answered? at h
  rw [isNotice_eq]
  cases hmethod : method? m with
  | some method => simp [hmethod] at h
  | none =>
      simp only [hmethod] at h
      rw [← Mailboxes.id?_bind_asNat64?] at h
      cases hid : id? m with
      | none => simp [hid] at h
      | some id => rfl

end Message

namespace Mailboxes

open Message

theorem replyTo_eq {m : Json} {method : String} (h : method? m = some method) :
    replyTo method m = resultFor m := by
  unfold replyTo resultFor
  rw [method?_eq_some_iff.1 h]
  by_cases hasked : method = "workspace/configuration"
  · subst hasked
    rcases (m.get? "params").bind (·.get? "items") with _ | (_ | _ | _ | _ | _ | _ | _) <;>
      simp [Json.asArray?]
  · simp [hasked]

/-! ### One message -/

/-- What becomes of a message, and that nothing else changes with it. -/
inductive Deals (writing : Bool) (m : Json) (boxes : Mailboxes) : Mailboxes → Prop where
  | noted (hnotice : isNotice m = true) (hrequest : isRequest m = false) :
      Deals writing m boxes (boxes.keep m)
  | replied (hnotice : isNotice m = true) (hrequest : isRequest m = true) :
      Deals writing m boxes { boxes with
        outbox := boxes.outbox ++ if writing then [.message (reply m)] else []
        notifications := boxes.notifications ++ [m] }
  | delivered {n : Nat} (hnotice : isNotice m = false) (hanswer : answered? m = some n)
      (hpending : n ∈ boxes.pending) : Deals writing m boxes ((boxes.unlist n).handOver n m)
  | dropped (hnotice : isNotice m = false)
      (hnone : ∀ n, answered? m = some n → n ∉ boxes.pending) : Deals writing m boxes boxes

theorem deals_route (writing : Bool) (m : Json) (boxes : Mailboxes) :
    Deals writing m boxes (boxes.route writing m) := by
  cases hmethod : method? m with
  | some method =>
      have hnotice : isNotice m = true := by simp [isNotice_eq, hmethod]
      cases hid : id? m with
      | none =>
          have hrequest : isRequest m = false := by simp [isRequest_eq, hid]
          have hroute : boxes.route writing m = boxes.keep m := by simp [route, hmethod, hid]
          exact hroute ▸ .noted hnotice hrequest
      | some id =>
          have hrequest : isRequest m = true := by simp [isRequest_eq, hmethod, hid]
          have hreply : answer id (replyTo method m) = reply m := by
            rw [replyTo_eq hmethod, reply, get?_of_id? hid]
            rfl
          have hroute : boxes.route writing m = { boxes with
              outbox := boxes.outbox ++ if writing then [.message (reply m)] else []
              notifications := boxes.notifications ++ [m] } := by
            cases writing <;> simp [route, hmethod, hid, hreply, keep]
          exact hroute ▸ .replied hnotice hrequest
  | none =>
      cases hid : id? m with
      | none =>
          have hnotice : isNotice m = true := by simp [isNotice_eq, hid]
          have hrequest : isRequest m = false := by simp [isRequest_eq, hid]
          have hroute : boxes.route writing m = boxes.keep m := by simp [route, hmethod, hid]
          exact hroute ▸ .noted hnotice hrequest
      | some id =>
          have hnotice : isNotice m = false := by simp [isNotice_eq, hmethod, hid]
          by_cases hwaited : ∃ n, answered? m = some n ∧ n ∈ boxes.pending
          · obtain ⟨n, hanswer, hpending⟩ := hwaited
            rw [route_eq_of_mem writing hanswer hpending]
            exact .delivered hnotice hanswer hpending
          · have hnone : ∀ n, answered? m = some n → n ∉ boxes.pending :=
              fun n hanswer hpending => hwaited ⟨n, hanswer, hpending⟩
            have hroute : boxes.route writing m = boxes := by
              have hnat : answered? m = id.asNat64? := by
                simp only [answered?, hmethod]
                rw [← id?_bind_asNat64?, hid, Option.bind_some]
              cases hnumber : id.asNat64? with
              | none => simp [route, hmethod, hid, deliver, hnumber]
              | some n =>
                  have hgone : n ∉ boxes.pending := hnone n (hnat.trans hnumber)
                  simp [route, hmethod, hid, deliver, hnumber, hgone]
            rw [hroute]
            exact .dropped hnotice hnone

/-! ### Any number of messages -/

/-- What is in the places when messages have come, next to what was there before. -/
structure Sorts (writing : Bool) (ms : List Json) (boxes boxes' : Mailboxes) : Prop where
  notifications : boxes'.notifications = boxes.notifications ++ ms.filter isNotice
  /-- One reply for each request, while there is somebody who writes it. -/
  outbox : boxes'.outbox = boxes.outbox ++
    if writing then (ms.filter isRequest).map fun m => .message (reply m) else []
  /-- Whoever waited is given the first answer to its request. What is handed over has come in this
  order, and none of it is kept as well. -/
  delivered : ∃ delivered, boxes'.answers = boxes.answers ++ delivered ∧
    (delivered.map Prod.snd).Sublist (ms.filter fun m => !isNotice m) ∧
    ∀ n, (delivered.filter fun a => a.1 = n) = if n ∈ boxes.pending then
      ((ms.find? fun m => answered? m = some n).map ((n, ·))).toList else []

/-- Who waits when messages have come: whoever waited, unless one of them answered its request. -/
def stillPending (ms : List Json) (boxes : Mailboxes) : List Nat :=
  boxes.pending.filter fun n => ms.all fun m => answered? m ≠ some n

variable {writing : Bool} {ms : List Json} {m : Json} {boxes boxes' boxes'' : Mailboxes}

theorem Sorts.nil : Sorts writing [] boxes boxes where
  notifications := (List.append_nil _).symm
  outbox := by simp
  delivered := ⟨[], by simp⟩

theorem mem_stillPending {n : Nat} :
    n ∈ stillPending ms boxes ↔ n ∈ boxes.pending ∧ ∀ m ∈ ms, answered? m ≠ some n := by
  simp [stillPending]

theorem Deals.notifications (h : Deals writing m boxes boxes') :
    boxes'.notifications = boxes.notifications ++ [m].filter isNotice := by
  cases h with
  | noted hnotice hrequest => simp [hnotice, keep]
  | replied hnotice hrequest => simp [hnotice]
  | delivered hnotice hanswer hpending => simp [hnotice, handOver, unlist]
  | dropped hnotice hnone => simp [hnotice]

theorem Deals.outbox (h : Deals writing m boxes boxes') :
    boxes'.outbox = boxes.outbox ++
      if writing then ([m].filter isRequest).map fun m => .message (reply m) else [] := by
  cases h with
  | noted hnotice hrequest => simp [hrequest, keep]
  | replied hnotice hrequest => simp [hrequest]
  | delivered hnotice hanswer hpending =>
      simp [isRequest_eq_false hnotice, handOver, unlist]
  | dropped hnotice hnone => simp [isRequest_eq_false hnotice]

/-- The waiters and their answers are left alone, unless one of them is answered. -/
theorem Deals.waiters (h : Deals writing m boxes boxes') :
    (boxes'.pending = boxes.pending ∧ boxes'.answers = boxes.answers ∧
      ∀ n, answered? m = some n → n ∉ boxes.pending) ∨
    ∃ n, answered? m = some n ∧ n ∈ boxes.pending ∧ isNotice m = false ∧
      boxes'.pending = boxes.pending.filter (· ≠ n) ∧
      boxes'.answers = boxes.answers ++ [(n, m)] := by
  have hnobody : isNotice m = true → ∀ n, answered? m = some n → n ∉ boxes.pending := by
    intro hnotice n hanswer
    rw [isNotice_eq_false_of_answered hanswer] at hnotice
    cases hnotice
  cases h with
  | noted hnotice hrequest => exact .inl ⟨rfl, rfl, hnobody hnotice⟩
  | replied hnotice hrequest => exact .inl ⟨rfl, rfl, hnobody hnotice⟩
  | @delivered n hnotice hanswer hpending => exact .inr ⟨n, hanswer, hpending, hnotice, rfl, rfl⟩
  | dropped hnotice hnone => exact .inl ⟨rfl, rfl, hnone⟩

/-- One more message takes at most its own waiter off the list. -/
theorem stillPending_snoc (h : boxes'.pending = stillPending ms boxes)
    (hdeals : Deals writing m boxes' boxes'') :
    boxes''.pending = stillPending (ms ++ [m]) boxes := by
  have hlast : stillPending (ms ++ [m]) boxes =
      boxes'.pending.filter fun n => answered? m ≠ some n := by
    rw [h, stillPending, stillPending, List.filter_filter]
    refine List.filter_congr fun n _ => ?_
    simp [Bool.and_comm]
  rw [hlast]
  rcases hdeals.waiters with ⟨hsame, -, hnone⟩ | ⟨n, hanswer, -, -, hless, -⟩
  · rw [hsame]
    refine (List.filter_eq_self.2 fun n hmem => ?_).symm
    simpa using fun hanswer => hnone n hanswer hmem
  · rw [hless]
    refine List.filter_congr fun n' _ => ?_
    simp [hanswer, eq_comm]

/-- The first answer to a request stays the first, unless there was none and this is waited for. -/
theorem find?_snoc {n : Nat} (hpending : boxes'.pending = stillPending ms boxes)
    (hwaited : n ∈ boxes.pending) (hnone : answered? m = some n → n ∉ boxes'.pending) :
    (ms ++ [m]).find? (fun m => answered? m = some n) = ms.find? fun m => answered? m = some n := by
  rw [List.find?_append]
  cases hfind : ms.find? fun m => answered? m = some n with
  | some m' => rfl
  | none =>
      have hstill : n ∈ boxes'.pending := by
        rw [hpending, mem_stillPending]
        exact ⟨hwaited, fun m' hm' => by simpa using List.find?_eq_none.1 hfind m' hm'⟩
      have hother : answered? m ≠ some n := fun hanswer => hnone hanswer hstill
      simp [hother]

theorem Sorts.snoc (h : Sorts writing ms boxes boxes')
    (hpending : boxes'.pending = stillPending ms boxes) (hdeals : Deals writing m boxes' boxes'') :
    Sorts writing (ms ++ [m]) boxes boxes'' where
  notifications := by
    rw [hdeals.notifications, h.notifications, List.filter_append, List.append_assoc]
  outbox := by
    rw [hdeals.outbox, h.outbox, List.append_assoc]
    cases writing <;> simp
  delivered := by
    obtain ⟨delivered, hanswers, hsub, hfirst⟩ := h.delivered
    rw [List.filter_append]
    rcases hdeals.waiters with ⟨-, hsame, hnone⟩ | ⟨n, hanswer, hmem, hnotice, -, hmore⟩
    · refine ⟨delivered, hsame.trans hanswers, List.sublist_append_of_sublist_left hsub, ?_⟩
      intro n
      rw [hfirst n]
      split
      next hwaited => rw [find?_snoc hpending hwaited (hnone n)]
      next => rfl
    · refine ⟨delivered ++ [(n, m)], by rw [hmore, hanswers, List.append_assoc], ?_, ?_⟩
      · simpa [hnotice] using hsub
      · intro n'
        rw [List.filter_append, hfirst n']
        obtain ⟨hwaited, hfresh⟩ := mem_stillPending.1 (hpending ▸ hmem)
        by_cases hself : n' = n
        · -- nobody had answered this request, so this is the first answer to it
          subst hself
          have hnothing : ms.find? (fun m => answered? m = some n') = none := by
            simpa using hfresh
          simp [hwaited, hnothing, hanswer, List.find?_append]
        · have hother : answered? m = some n' → n' ∉ boxes'.pending := fun h =>
            absurd (Option.some.inj (h.symm.trans hanswer)) hself
          split
          next hwaited' => simp [find?_snoc hpending hwaited' hother, Ne.symm hself]
          next => simp [Ne.symm hself]

end Mailboxes

open Mailboxes Message

namespace Client

theorem receiveAll_snoc (ms : List Json) (m : Json) (c : Client) :
    c.receiveAll (ms ++ [m]) = (c.receiveAll ms).receive m := receiveAll_append ms [m] c

@[simp] theorem receiveAll_writing (ms : List Json) (c : Client) :
    (c.receiveAll ms).writing = c.writing := by
  induction ms generalizing c with
  | nil => rfl
  | cons m ms ih => exact ih (c.receive m)

theorem deals_receive (m : Json) (c : Client) :
    Deals c.writing m c.boxes (c.receive m).boxes := deals_route c.writing m c.boxes

theorem sorts_receiveAll (ms : List Json) (c : Client) :
    Sorts c.writing ms c.boxes (c.receiveAll ms).boxes ∧
      (c.receiveAll ms).boxes.pending = stillPending ms c.boxes := by
  induction ms using List.reverseRecOn with
  | nil => exact ⟨.nil, by simp [stillPending, receiveAll]⟩
  | append_singleton ms m ih =>
      obtain ⟨hsorts, hpending⟩ := ih
      have hdeals := deals_receive m (c.receiveAll ms)
      rw [receiveAll_writing] at hdeals
      rw [receiveAll_snoc]
      exact ⟨hsorts.snoc hpending hdeals, stillPending_snoc hpending hdeals⟩

end Client

namespace Wire

open LookupBench.Frame

/-- Whatever a server says, and whoever waits: each message is dealt with as its shape demands, at
any moment; a request of the server leaves the waiters alone, whatever its id; and the places hold
what came, in order. The same holds of all that a reader takes from a stream of octets, at whose end
it wakes whoever is left, if it comes to that end. -/
theorem messages_routed (c : Client) :
    (∀ m, Deals c.writing m c.boxes (c.receive m).boxes) ∧
    (∀ m, isRequest m = true → (c.receive m).boxes.pending = c.boxes.pending ∧
      (c.receive m).boxes.answers = c.boxes.answers) ∧
    (∀ ms, Sorts c.writing ms c.boxes (c.receiveAll ms).boxes ∧
      (c.receiveAll ms).boxes.pending = stillPending ms c.boxes) ∧
    ∀ (chunks : List Bytes) (code : Nat) (w : Wire), w.unread = [] → c.reading = true →
      Sorts c.writing (messages chunks.flatten w.limit) c.boxes
        (hearOut chunks code (w, c)).boxes ∧
      (hearOut chunks code (w, c)).boxes.pending =
        match (readAll chunks.flatten w.limit).2 with
        | .finished => []
        | .refused _ => stillPending (messages chunks.flatten w.limit) c.boxes := by
  refine ⟨fun m => c.deals_receive m, ?_, fun ms => c.sorts_receiveAll ms, ?_⟩
  · intro m hrequest
    rcases (c.deals_receive m).waiters with ⟨hpending, hanswers, -⟩ | ⟨n, -, -, hnotice, -⟩
    · exact ⟨hpending, hanswers⟩
    · rw [isRequest_eq_false hnotice] at hrequest
      cases hrequest
  · intro chunks code w hunread hreading
    obtain ⟨hsorts, hpending⟩ := c.sorts_receiveAll (messages chunks.flatten w.limit)
    rw [hearOut_eq chunks code hunread hreading]
    cases (readAll chunks.flatten w.limit).2 with
    | finished => exact ⟨⟨hsorts.notifications, hsorts.outbox, hsorts.delivered⟩, rfl⟩
    | refused => exact ⟨⟨hsorts.notifications, hsorts.outbox, hsorts.delivered⟩, hpending⟩

/-- A server that asks for settings under the number of a request that waits, answers that request,
and says something of no shape at all. -/
def chatter : Bytes := writeAll [
  .object [("id", .int 1), ("method", .string "workspace/configuration"),
    ("params", .object [("items", .array [.string "a", .string "b"])])],
  .object [("id", .int 1), ("result", .null)],
  .array [.int 1]]

theorem messages_routed_chatter :
    idle.unread = [] ∧ asking.reading = true ∧ asking.boxes.pending = [1] ∧
      (messages [chatter].flatten).map isRequest = [true, false, false] ∧
      (messages [chatter].flatten).map answered? = [none, some 1, none] ∧
      Sorts true (messages [chatter].flatten) asking.boxes
        (hearOut [chatter] 0 (idle, asking)).boxes ∧
      (hearOut [chatter] 0 (idle, asking)).boxes.pending = [] := by
  have hread : (readAll [chatter].flatten idle.limit).2 = .finished ∧
      (messages [chatter].flatten).map isRequest = [true, false, false] ∧
      (messages [chatter].flatten).map answered? = [none, some 1, none] := by
    decide +kernel
  obtain ⟨hsorts, hpending⟩ := (messages_routed asking).2.2.2 [chatter] 0 idle rfl rfl
  rw [hread.1] at hpending
  exact ⟨rfl, rfl, rfl, hread.2.1, hread.2.2, hsorts, hpending⟩

end Wire

end LookupBench
