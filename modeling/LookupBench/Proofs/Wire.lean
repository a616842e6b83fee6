import LookupBench.Proofs.Client.Ledger
import LookupBench.Wire

/-!
# What a wire does to a client

However a process behaves, and whenever what it does comes through, a wire changes the client only by
the moves of its writer and its readers; and the process reads what the writer wrote, in order, until
it leaves.
-/

namespace LookupBench.Wire

open Relation Ledger

variable {c c' : Client} {l l' : Ledger} {w w' : Wire}

/-- What a wire knows of a ledger: what the process has read, which is all while it reads on. -/
structure Tells (w : Wire) (l : Ledger) : Prop where
  heard : w.received <+: l.written
  all : w.leaving = false → w.received = l.written

/-- The process has read no more than before, and has not come back; nor was more written. -/
theorem Tells.congr (h : Tells w l) (hwritten : l'.written = l.written) (hheard : w'.heard = w.heard)
    (hleaving : w'.leaving = false → w.leaving = false) : Tells w' l' := by
  have hreceived : w'.received = w.received := congrArg List.reverse hheard
  constructor
  · rw [hreceived, hwritten]
    exact h.heard
  · rw [hreceived, hwritten]
    exact fun hw => h.all (hleaving hw)

theorem Tells.accept (h : Tells w l) (reading : Bool) {m : Json}
    (hwritten : l'.written = l.written ++ [m]) : Tells (w.accept reading m) l' := by
  unfold Wire.accept
  cases hleaving : w.leaving with
  | true =>
      constructor
      · rw [hwritten]
        exact h.heard.trans (List.prefix_append _ _)
      · exact fun hw => absurd (hleaving.symm.trans hw) (by decide)
  | false =>
      have hreceived : ∀ w' : Wire, w'.heard = m :: w.heard → w'.received = l'.written :=
        fun w' hw' => by rw [received, hw', List.reverse_cons, ← received, h.all hleaving, hwritten]
      have hall := hreceived (({ w with
        process := (w.process.receive m).1, heard := m :: w.heard } : Wire).enqueue
          (if reading then (w.process.receive m).2 else unheeded (w.process.receive m).2)) rfl
      exact ⟨hall ▸ List.prefix_refl _, fun _ => hall⟩

/-- The ledger goes on by the moves of the writer and the readers, and the wire still tells it. -/
def Works (x y : Wire × Client) : Prop :=
  ∀ l, Tells x.1 l → ∃ l', Tells y.1 l' ∧ Moves (l, x.2) (l', y.2)

theorem Works.refl (x : Wire × Client) : Works x x := fun l h => ⟨l, h, .refl⟩

theorem Works.trans {x y z : Wire × Client} (h : Works x y) (h' : Works y z) : Works x z := by
  intro l hl
  obtain ⟨l', hl', hmoves⟩ := h l hl
  obtain ⟨l'', hl'', hmoves'⟩ := h' l' hl'
  exact ⟨l'', hl'', ReflTransGen.trans hmoves hmoves'⟩

/-- The readers move while the process reads nothing. -/
theorem works_of_moves (hheard : w'.heard = w.heard)
    (hleaving : w'.leaving = false → w.leaving = false) (h : ∀ l, Moves (l, c) (l, c')) :
    Works (w, c) (w', c') :=
  fun l hl => ⟨l, hl.congr rfl hheard hleaving, h l⟩

/-- The writer takes one thing, and writes it, ends at it, or breaks off. -/
theorem works_transmit {item : Outbound} (hnext : c.nextOutbound = some (item, c')) :
    Works (w, c) (transmit item (w, c')) := by
  intro l hl
  cases item with
  | close =>
      refine ⟨{ l with taken := l.taken ++ c.boxes.outbox }, ?_, .single (.close hnext)⟩
      rw [transmit]
      cases hleaving : w.leaving with
      | true => exact hl.congr rfl rfl id
      | false => exact hl.congr rfl rfl fun _ => hleaving
  | message m =>
      rw [transmit]
      split
      · obtain ⟨rest, -, rfl⟩ := Client.nextOutbound_eq_some_iff.1 hnext
        exact ⟨{ l with taken := l.taken ++ c.boxes.outbox, broken := l.broken || c.writing },
          hl.congr rfl rfl id, .single (.breakOff l c)⟩
      · exact ⟨{ l with taken := l.taken ++ [.message m], written := l.written ++ [m] },
          hl.accept _ rfl, .single (.write hnext)⟩

theorem works_flush (fuel : Nat) (x : Wire × Client) : Works x (flush fuel x) := by
  induction fuel generalizing x with
  | zero => exact .refl _
  | succ fuel ih =>
      obtain ⟨w, c⟩ := x
      rw [flush]
      split
      next => exact .refl _
      next item c' hnext => exact (works_transmit hnext).trans (ih _)

theorem moves_readWith (limit fuel : Nat) (input : Bytes) (hreading : c.reading = true) :
    Moves (l, c) (l, (readWith limit fuel input c).2) := by
  induction fuel generalizing input c with
  | zero => exact .refl
  | succ fuel ih =>
      rw [readWith]
      split
      next m rest _ => exact .head (.receive l m hreading) (ih rest hreading)
      next => exact .refl
      next refusal rest _ =>
        dsimp only
        split
        · exact .refl
        · exact .single (.stopReading l c refusal)

theorem move_finishReading (limit : Nat) (unread : Bytes) (hreading : c.reading = true) :
    Move (l, c) (l, finishReading limit unread c) := by
  unfold finishReading
  split
  next refusal _ _ => exact .stopReading l c refusal
  · exact .finish l hreading

theorem works_deliver (effect : Effect) (x : Wire × Client) : Works x (deliver effect x) := by
  obtain ⟨w, c⟩ := x
  cases effect with
  | output bytes =>
      rw [deliver]
      dsimp only
      split
      next hreading => exact works_of_moves rfl id fun l => moves_readWith _ _ _ hreading
      next => exact .refl _
  | errors bytes => exact works_of_moves rfl id fun l => .single (.hear l c bytes)
  | pause n => exact .refl _
  | exit code =>
      refine works_of_moves rfl id fun l => ?_
      split
      next hreading =>
        exact .head (move_finishReading w.limit w.unread hreading) (.single (.endOfErrors l _))
      next => exact .single (.endOfErrors l c)

theorem works_deliverDue (fuel : Nat) (x : Wire × Client) : Works x (deliverDue fuel x) := by
  induction fuel generalizing x with
  | zero => exact .refl _
  | succ fuel ih =>
      obtain ⟨w, c⟩ := x
      rw [deliverDue]
      split
      next moment effect rest _ =>
        split
        · have htaken : Works (w, c) ({ w with coming := rest }, c) :=
            works_of_moves rfl id fun _ => .refl
          exact htaken.trans ((works_deliver effect _).trans (ih _))
        · exact .refl _
      next => exact .refl _

theorem works_settleWith (fuel : Nat) (x : Wire × Client) : Works x (settleWith fuel x) := by
  induction fuel generalizing x with
  | zero => exact .refl _
  | succ fuel ih =>
      obtain ⟨w, c⟩ := x
      rw [settleWith]
      dsimp only
      have hturn : Works (w, c) (deliverDue (flush c.boxes.outbox.length (w, c)).1.coming.length
          (flush c.boxes.outbox.length (w, c))) :=
        (works_flush _ _).trans (works_deliverDue _ _)
      split
      · exact hturn
      · exact hturn.trans (ih _)

theorem works_settle (x : Wire × Client) : Works x (settle x) := works_settleWith _ x

/-- The clock is nobody's business. -/
theorem works_later (x : Wire × Client) (now : Nat) : Works x ({ x.1 with now }, x.2) :=
  works_of_moves rfl id fun _ => .refl

theorem works_passUntil (met : Wire → Client → Bool) (deadline fuel : Nat) (x : Wire × Client) :
    Works x (passUntil met deadline fuel x) := by
  induction fuel generalizing x with
  | zero => exact .refl _
  | succ fuel ih =>
      have hturn := works_settle x
      rw [passUntil]
      dsimp only
      split
      · exact hturn
      · split
        next moment _ _ _ =>
          split
          · exact (hturn.trans (works_later _ moment)).trans (ih _)
          · exact hturn.trans (works_later _ _)
        next => exact hturn.trans (works_later _ _)

theorem works_kill (x : Wire × Client) : Works x (kill x) := by
  obtain ⟨w, c⟩ := x
  rw [kill]
  split
  · exact .refl _
  · have hleft : Works (w, c) ({ w with leaving := true, coming := [] }, c) :=
      works_of_moves rfl nofun fun _ => .refl
    exact hleft.trans (works_deliver (.exit 137) _)

theorem works_pass (met : Wire → Client → Bool) (nanoseconds : Nat) (x : Wire × Client) :
    Works x (pass met nanoseconds x) :=
  (works_settle x).trans (works_passUntil _ _ _ _)

theorem keeps_surroundings : surroundings.Keeps received Tells where
  heard _ _ h := h.heard
  settle l x := works_settle x l
  await id limit l x := works_pass (fun _ c => !c.isWaiting id) limit.nanoseconds x l
  rest duration l x := works_pass (fun _ _ => false) duration.nanoseconds x l
  finish l x := ((works_pass (fun w _ => w.gone) grace x).trans (works_kill (pass _ grace x))) l

theorem lawful_surroundings : surroundings.Lawful :=
  keeps_surroundings.lawful fun w => ⟨{ written := w.received }, List.prefix_refl _, fun _ => rfl⟩

/-! ### Requests over a wire -/

section Request

variable {name : String} {root : Path} {trace : Bool} {processId : Nat} {es : List Event}
  {method : String} {params : Json} {limit : Duration}

/-- Whatever the process does, and whenever: a request that was answered returns the contents of a
message that answers it and that came while it was outstanding. -/
theorem request_answered {x : Wire × Client}
    (h : Exchange.Rests (.opening name root trace processId) es .idle x.2)
    (hisAnswer : IsAnswer (Session.request surroundings method params limit x).1) :
    ∃ since arrival m, AnsweredBy (es ++ since) x.2.nextId arrival m ∧
      (Session.request surroundings method params limit x).1
        = (Exchange.opening name root trace processId).client.result method m :=
  Exchange.request_answered lawful_surroundings method params limit x h hisAnswer

/-- A client asks its first request with an empty history. -/
theorem first_request_answered {c : Client}
    (hnew : c = (Exchange.opening name root trace processId).client)
    (hisAnswer : IsAnswer (Session.request surroundings method params limit (w, c)).1) :
    ∃ es arrival m, AnsweredBy es c.nextId arrival m ∧
      (Session.request surroundings method params limit (w, c)).1 = c.result method m := by
  subst hnew
  exact request_answered ⟨0, .nil⟩ hisAnswer

end Request

/-- The process that was just started has read nothing. -/
theorem tells_ofProcess (process : Process) (effects : List Effect) :
    Tells (ofProcess process effects) {} := ⟨List.prefix_refl _, fun _ => rfl⟩

end LookupBench.Wire
