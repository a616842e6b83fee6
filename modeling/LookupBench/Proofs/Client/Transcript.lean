import LookupBench.Benchmark.Query
import LookupBench.Proofs.Wire

/-!
# What a session says

A session queues its messages one after the other, and nobody else queues one that has a method. So
what was said is a script, or as much of it as was said when the writer ended.
-/

namespace LookupBench

open Ledger Outbound

variable {σ : Type}

namespace Ledger

variable {R : σ → Ledger → Prop} {l l' l'' : Ledger} {x y z : σ × Client} {ms ns : List Json}

/-- A session is under way: nobody has closed the queue. -/
structure Going (R : σ → Ledger → Prop) (l : Ledger) (x : σ × Client) : Prop where
  kept : R x.1 l
  sound : l.Sound x.2
  unclosed : .close ∉ l.queued x.2
  running : x.2.running = true

/-- Messages were said, or the first of them, until the writer ended. -/
structure Utters (ms : List Json) (p q : Ledger × Client) : Prop where
  said : ∃ part, q.1.said q.2 = p.1.said p.2 ++ part ∧ part <+: ms ∧
    (part ≠ ms → q.1.broken = true)
  broken : p.1.broken = true → q.1.broken = true ∧ q.1.said q.2 = p.1.said p.2

theorem Utters.of_eq {p q : Ledger × Client} (hsaid : q.1.said q.2 = p.1.said p.2)
    (hbroken : p.1.broken = true → q.1.broken = true) : Utters [] p q where
  said := ⟨[], by rw [hsaid, List.append_nil], List.prefix_refl _, fun h => absurd rfl h⟩
  broken h := ⟨hbroken h, hsaid⟩

theorem Utters.trans {p q r : Ledger × Client} (h : Utters ms p q) (h' : Utters ns q r) :
    Utters (ms ++ ns) p r where
  said := by
    obtain ⟨part, hpart, hprefix, hshort⟩ := h.said
    obtain ⟨part', hpart', hprefix', hshort'⟩ := h'.said
    by_cases hall : part = ms
    · subst hall
      refine ⟨part ++ part', by rw [hpart', hpart, List.append_assoc],
        (List.prefix_append_right_inj _).2 hprefix', fun hne => hshort' fun heq => ?_⟩
      exact hne (by rw [heq])
    · -- The writer had ended: nothing was said after that.
      obtain ⟨hbroken, hsame⟩ := h'.broken (hshort hall)
      exact ⟨part, by rw [hsame, hpart], hprefix.trans (List.prefix_append _ _), fun _ => hbroken⟩
  broken hbroken := by
    obtain ⟨hbroken', hsame⟩ := h.broken hbroken
    obtain ⟨hbroken'', hsame'⟩ := h'.broken hbroken'
    exact ⟨hbroken'', hsame'.trans hsame⟩

/-- After the end of the writer it does not matter what the session goes on to say. -/
theorem Utters.of_broken {p q : Ledger × Client} (h : Utters ms p q) (hbroken : p.1.broken = true)
    (ns : List Json) : Utters ns p q where
  said := by
    obtain ⟨hbroken', hsame⟩ := h.broken hbroken
    exact ⟨[], by rw [hsame, List.append_nil], List.nil_prefix, fun _ => hbroken'⟩
  broken := h.broken

/-- A session that is under way says some messages and still is. -/
structure Goes (R : σ → Ledger → Prop) (ms : List Json) (l : Ledger) (x : σ × Client) (l' : Ledger)
    (y : σ × Client) : Prop where
  going : Going R l' y
  utters : Utters ms (l, x.2) (l', y.2)
  stopping : y.2.stopping = x.2.stopping

theorem Goes.trans (h : Goes R ms l x l' y) (h' : Goes R ns l' y l'' z) :
    Goes R (ms ++ ns) l x l'' z :=
  ⟨h'.going, h.utters.trans h'.utters, h'.stopping.trans h.stopping⟩

theorem Goes.of_broken (h : Goes R ms l x l' y) (hbroken : l.broken = true) (ns : List Json) :
    Goes R ns l x l' y :=
  ⟨h.going, h.utters.of_broken hbroken ns, h.stopping⟩

theorem Going.goes (h : Going R l x) : Goes R [] l x l x :=
  ⟨h, .of_eq rfl id, rfl⟩

/-- A move of the caller that leaves the writer and the queue alone. -/
theorem Going.aside (h : Going R l x) {c : Client} (hwriting : c.writing = x.2.writing)
    (houtbox : c.boxes.outbox = x.2.boxes.outbox) (hrunning : c.running = x.2.running) :
    Going R l (x.1, c) ∧ Utters [] (l, x.2) (l, c) := by
  have hqueued : l.queued c = l.queued x.2 := by rw [queued, houtbox, queued]
  exact ⟨⟨h.kept, h.sound.congr hwriting fun _ => houtbox, hqueued ▸ h.unclosed,
    hrunning.trans h.running⟩, .of_eq (by rw [said, hqueued, said]) id⟩

theorem Going.change (h : Going R l x) {c : Client} (hwriting : c.writing = x.2.writing)
    (houtbox : c.boxes.outbox = x.2.boxes.outbox) (hrunning : c.running = x.2.running)
    (hstopping : c.stopping = x.2.stopping) : Goes R [] l x l (x.1, c) :=
  ⟨(h.aside hwriting houtbox hrunning).1, (h.aside hwriting houtbox hrunning).2, hstopping⟩

/-- The others take a turn. -/
theorem Going.turn (h : Going R l x) {f : σ × Client → σ × Client} (hkept : Kept R f) :
    ∃ l', Goes R [] l x l' (f x) ∧ (f x).2.nextId = x.2.nextId := by
  obtain ⟨l', hR, hmoves⟩ := hkept l x h.kept
  have hfollows := hmoves.follows h.sound
  refine ⟨l', ⟨⟨hR, hfollows.sound, fun hclose => ?_, ?_⟩, ?_, hfollows.caller.stopping⟩,
    hfollows.caller.nextId⟩
  · exact h.unclosed (hfollows.close_iff.1 hclose)
  · exact hfollows.caller.running.trans h.running
  · exact .of_eq hfollows.said hfollows.broken

/-- Queueing a message fails only when the writer has ended. -/
theorem Going.send (h : Going R l x) {m : Json} (hm : (Message.method? m).isSome = true) :
    match x.2.send m with
    | .ok c => Goes R [m] l x l (x.1, c) ∧ c.nextId = x.2.nextId
    | .error _ => l.broken = true := by
  unfold Client.send
  cases hwriting : x.2.writing with
  | true =>
      have hqueued : ∀ c : Client, c.boxes.outbox = x.2.boxes.outbox ++ [.message m] →
          l.queued c = l.queued x.2 ++ [.message m] := fun c hc => by
        rw [queued, hc, queued, List.append_assoc]
      have hworking := h.sound.working hwriting
      refine ⟨⟨⟨h.kept, ⟨fun _ => hworking, fun hw => ?_⟩, ?_, h.running⟩, ⟨?_, fun hbroken => ?_⟩,
        rfl⟩, rfl⟩
      · cases hw
      · rw [hqueued _ rfl]
        simpa using h.unclosed
      · refine ⟨[m], ?_, List.prefix_refl _, fun hne => absurd rfl hne⟩
        rw [said, hqueued _ rfl, List.filterMap_append, said]
        simp [said?, hm]
      · rw [hworking.2] at hbroken
        cases hbroken
  | false =>
      refine (h.sound.ended hwriting).2.2.resolve_right fun hclose => ?_
      exact h.unclosed (List.mem_append_left _ hclose)

/-- Closing the queue says nothing. -/
theorem Sound.close {c : Client} (h : l.Sound c) : l.Sound c.close ∧ Utters [] (l, c) (l, c.close) := by
  unfold Client.close
  cases hwriting : c.writing with
  | true =>
      refine ⟨⟨fun _ => h.working hwriting, fun hw => ?_⟩, .of_eq ?_ id⟩
      · cases hw
      · simp [said, queued, said?]
  | false => exact ⟨h, .of_eq rfl id⟩

end Ledger

/-! ### Pieces of sessions -/

theorem Message.isSome_method?_request (id : Nat) (method : String) (params : Json) :
    (Message.method? (Message.request id method params)).isSome = true := rfl

theorem Message.isSome_method?_notification (method : String) (params : Json) :
    (Message.method? (Message.notification method params)).isSome = true := rfl

namespace Session

variable {α β : Type} {s : Surroundings σ} {heard : σ → List Json} {R : σ → Ledger → Prop}
  {l l' : Ledger} {x y : σ × Client} {ms ns : List Json}

/-- A request is said under the next number, whatever comes of it. -/
theorem request_goes (hkeeps : s.Keeps heard R) (h : Going R l x) (method : String) (params : Json)
    (limit : Duration) :
    ∃ l', Goes R [Message.request x.2.nextId method params] l x l'
        (request s method params limit x).2 ∧
      (request s method params limit x).2.2.nextId = x.2.nextId + 1 := by
  rw [request_eq]
  dsimp only
  obtain ⟨l₁, hgoes₁, hnext₁⟩ := h.turn hkeeps.settle
  rw [← hnext₁]
  generalize s.settle x = y at *
  have hregister : Goes R [] l₁ y l₁ (y.1, y.2.register.2) := hgoes₁.going.change rfl rfl rfl rfl
  obtain ⟨l₂, hgoes₂, hnext₂⟩ := hregister.going.turn hkeeps.settle
  generalize s.settle (y.1, y.2.register.2) = z at *
  have hbefore := (hgoes₁.trans hregister).trans hgoes₂
  have hsend := hgoes₂.going.send (Message.isSome_method?_request y.2.nextId method params)
  split
  next failure hfailure =>
    rw [hfailure] at hsend
    have hretire : Goes R [] l₂ z l₂ (z.1, z.2.retire y.2.nextId) :=
      hgoes₂.going.change rfl rfl rfl rfl
    exact ⟨l₂, hbefore.trans (hretire.of_broken hsend _), hnext₂⟩
  next c hc =>
    rw [hc] at hsend
    obtain ⟨hposted, hnext₃⟩ := hsend
    obtain ⟨l₃, hgoes₃, hnext₄⟩ := hposted.going.turn hkeeps.settle
    obtain ⟨l₄, hgoes₄, hnext₅⟩ := hgoes₃.going.turn (hkeeps.await y.2.nextId limit)
    obtain ⟨l₅, hgoes₅, hnext₆⟩ := hgoes₄.going.turn hkeeps.settle
    have hretire := hgoes₅.going.change (c := Client.retire y.2.nextId _) rfl rfl rfl rfl
    refine ⟨l₅, ?_, ?_⟩
    · simpa using
        ((((hbefore.trans hposted).trans hgoes₃).trans hgoes₄).trans hgoes₅).trans hretire
    · exact hnext₆.trans (hnext₅.trans (hnext₄.trans (hnext₃.trans hnext₂)))

/-- A piece of a session that starts at one number and ends at another says some messages. It fails
only when the writer has ended. -/
def Speaks (R : σ → Ledger → Prop) (n : Nat) (ms : List Json) (n' : Nat) (m : Session σ α) : Prop :=
  ∀ l x, Going R l x → x.2.nextId = n → ∃ l', Goes R ms l x l' (m x).2 ∧
    match (m x).1 with
    | .ok _ => (m x).2.2.nextId = n'
    | .error _ => l'.broken = true

variable {n n' n'' : Nat}

theorem speaks_pure (a : α) : Speaks R n [] n (pure a : Session σ α) :=
  fun l _ h hn => ⟨l, h.goes, hn⟩

theorem Speaks.bind {m : Session σ α} {f : α → Session σ β} (hm : Speaks R n ms n' m)
    (hf : ∀ a, Speaks R n' ns n'' (f a)) : Speaks R n (ms ++ ns) n'' (m >>= f) := by
  intro l x h hn
  obtain ⟨l', hgoes, hend⟩ := hm l x h hn
  generalize hout : m x = out at hgoes hend
  obtain ⟨r, y⟩ := out
  cases r with
  | ok a =>
      obtain ⟨l'', hgoes', hend'⟩ := hf a l' y hgoes.going hend
      rw [bind_of_ok hout]
      exact ⟨l'', hgoes.trans hgoes', hend'⟩
  | error failure =>
      rw [bind_of_error hout]
      exact ⟨l', hgoes.trans (hgoes.going.goes.of_broken hend ns), hend⟩

theorem Speaks.bind_mute {m : Session σ α} {f : α → Session σ β} (hm : Speaks R n ms n' m)
    (hf : ∀ a, Speaks R n' [] n'' (f a)) : Speaks R n ms n'' (m >>= f) := by
  simpa using hm.bind hf

/-- A piece that reads the state first. -/
theorem speaks_get {f : σ × Client → Session σ β} (hf : ∀ x, Speaks R n ms n' (f x)) :
    Speaks R n ms n' (get >>= f) := by
  intro l x h hn
  rw [bind_of_ok (get_eq x)]
  exact hf x l x h hn

theorem speaks_modify {f : σ × Client → σ × Client} (hkept : Kept R f) :
    Speaks R n [] n (modify f : Session σ PUnit) := by
  intro l x h hn
  obtain ⟨l', hgoes, hnext⟩ := h.turn hkept
  rw [modify_eq]
  exact ⟨l', hgoes, hnext.trans hn⟩

theorem speaks_notify (hkeeps : s.Keeps heard R) (method : String) (params : Json) :
    Speaks R n [Message.notification method params] n (notify s method params) := by
  intro l x h hn
  rw [notify, send_eq]
  obtain ⟨l₁, hgoes₁, hnext₁⟩ := h.turn hkeeps.settle
  generalize s.settle x = y at *
  have hsend := hgoes₁.going.send (Message.isSome_method?_notification method params)
  split
  next c hc =>
    rw [hc] at hsend
    obtain ⟨hposted, hnext₂⟩ := hsend
    obtain ⟨l₂, hgoes₂, hnext₃⟩ := hposted.going.turn hkeeps.settle
    exact ⟨l₂, (hgoes₁.trans hposted).trans hgoes₂, hnext₃.trans (hnext₂.trans (hnext₁.trans hn))⟩
  next failure hfailure =>
    rw [hfailure] at hsend
    exact ⟨l₁, hgoes₁.trans (hgoes₁.going.goes.of_broken hsend _), hsend⟩

/-- A request whose failure does not count. -/
theorem speaks_caught (hkeeps : s.Keeps heard R) (method : String) (params : Json)
    (limit : Duration) {f : Json → α} {g : ClientFailure → α} :
    Speaks R n [Message.request n method params] (n + 1)
      (tryCatch (do return f (← request s method params limit)) fun failure =>
        return g failure : Session σ α) := by
  intro l x h hn
  obtain ⟨l', hgoes, hnext⟩ := request_goes hkeeps h method params limit
  rw [hn] at hgoes hnext
  generalize hout : request s method params limit x = out at hgoes hnext
  obtain ⟨r, y⟩ := out
  cases r with
  | ok a =>
      rw [tryCatch_of_ok (bind_of_ok hout _)]
      exact ⟨l', hgoes, hnext⟩
  | error failure =>
      rw [tryCatch_of_error (bind_of_error hout _)]
      exact ⟨l', hgoes, hnext⟩

theorem speaks_lookup (hkeeps : s.Keeps heard R) (uri : String) (position : Position)
    (limit : Duration) :
    Speaks R n [Message.request n "textDocument/definition" (Message.position uri position)] (n + 1)
      (lookup s uri position limit) := by
  refine speaks_get fun x => ?_
  refine (speaks_caught hkeeps _ _ limit).bind_mute fun outcome => speaks_get fun y => ?_
  cases outcome with
  | ok answer => exact speaks_pure _
  | error failure => exact speaks_pure _

/-- What a piece that does not fail comes to. -/
def Returns (Q : α → Prop) (m : Session σ α) : Prop := ∀ x a, (m x).1 = .ok a → Q a

theorem returns_pure {Q : α → Prop} {a : α} (h : Q a) : Returns Q (pure a : Session σ α) := by
  intro x a' heq
  cases heq
  exact h

theorem returns_bind {Q : β → Prop} (m : Session σ α) {f : α → Session σ β}
    (hf : ∀ a, Returns Q (f a)) : Returns Q (m >>= f) := by
  intro x b heq
  generalize hout : m x = out
  obtain ⟨r, y⟩ := out
  cases r with
  | ok a =>
      rw [bind_of_ok hout] at heq
      exact hf a y b heq
  | error failure =>
      rw [bind_of_error hout] at heq
      cases heq

/-! ### The farewell -/

theorem attempt_eq (m : Session σ α) (x : σ × Client) : attempt m x = (.ok (), (m x).2) := by
  unfold attempt
  generalize hout : m x = out
  obtain ⟨r, y⟩ := out
  cases r with
  | ok a => exact tryCatch_of_ok (bind_of_ok hout _) _
  | error failure => exact tryCatch_of_error (bind_of_error hout _) _

/-- Once is enough. -/
theorem shutdown_of_ended (s : Surroundings σ) (limit : Duration) (h : x.2.running = false) :
    shutdown s limit x = (.ok (), x) := by
  unfold shutdown
  rw [bind_of_ok (get_eq x)]
  simp only [h, Bool.false_eq_true, if_false]
  rfl

/-- The first shutdown, move by move. -/
theorem shutdown_eq (s : Surroundings σ) (limit : Duration) (hrunning : x.2.running = true)
    (hstopping : x.2.stopping = false) :
    shutdown s limit x =
      let y := (request s "shutdown" .null limit (x.1, { x.2 with stopping := true })).2
      let z := (notify s "exit" .null y).2
      let w := s.finish (z.1, z.2.close)
      (.ok (), (w.1, { w.2 with running := false })) := by
  unfold shutdown
  rw [bind_of_ok (get_eq x)]
  dsimp only
  rw [if_pos hrunning, if_neg (by rw [hstopping]; decide),
    bind_of_ok (change_eq _ _), bind_of_ok (attempt_eq _ _), bind_of_ok (attempt_eq _ _),
    bind_of_ok (change_eq _ _), bind_of_ok (modify_eq _ _), change_eq]

/-- What is asked for in a farewell that starts at a number. -/
def farewell (n : Nat) : List Json :=
  [Message.request n "shutdown" .null, Message.notification "exit" .null]

/-- A shutdown says goodbye and then closes the queue for good. -/
theorem shutdown_utters (hkeeps : s.Keeps heard R) (h : Going R l x) (limit : Duration)
    (hstopping : x.2.stopping = false) :
    ∃ l', R (shutdown s limit x).2.1 l' ∧ l'.Sound (shutdown s limit x).2.2 ∧
      Utters (farewell x.2.nextId) (l, x.2) (l', (shutdown s limit x).2.2) ∧
      (shutdown s limit x).2.2.running = false := by
  rw [shutdown_eq s limit h.running hstopping]
  dsimp only
  obtain ⟨hgoing₁, hutters₁⟩ := h.aside (c := { x.2 with stopping := true }) rfl rfl rfl
  obtain ⟨l₂, hgoes₂, -⟩ := request_goes hkeeps hgoing₁ "shutdown" .null limit
  generalize (request s "shutdown" .null limit (x.1, { x.2 with stopping := true })).2 = y at *
  obtain ⟨l₃, hgoes₃, -⟩ := speaks_notify hkeeps "exit" .null l₂ y hgoes₂.going rfl
  generalize (notify s "exit" .null y).2 = z at *
  have hutters₃ := (hutters₁.trans hgoes₂.utters).trans hgoes₃.utters
  obtain ⟨hsound₄, hutters₄⟩ := hgoes₃.going.sound.close
  obtain ⟨l₅, hR, hmoves⟩ := hkeeps.finish l₃ (z.1, z.2.close) hgoes₃.going.kept
  have hfollows := hmoves.follows hsound₄
  refine ⟨l₅, hR, hfollows.sound.congr rfl fun _ => rfl, ?_, rfl⟩
  exact (hutters₃.trans hutters₄).trans (.of_eq hfollows.said hfollows.broken)

end Session

namespace Query

open Session

variable {s : Surroundings σ} {heard : σ → List Json} {R : σ → Ledger → Prop} {l l' : Ledger}
  {x y : σ × Client} {config : Config} (settings : Option Json) (rootUri text : String) (case : Case)

/-! ### The script of a session -/

/-- The first request of a client: its introduction. -/
def greeting (c : Client) (rootUri : String) : Json :=
  Message.request 1 "initialize"
    (Message.introduction c.processId rootUri (Message.folderName c.root) c.trace)

/-- What is said to a server that has answered the greeting. -/
def inquiry (config : Config) (settings : Option Json) (text : String) (case : Case) : List Json :=
  [Message.notification "initialized" (.object [])] ++
  (settings.map fun s =>
    Message.notification "workspace/didChangeConfiguration" (Message.settings s)).toList ++
  [Message.notification "textDocument/didOpen" (Message.document case.uri text config.language),
    Message.request 2 "textDocument/definition" (Message.position case.uri case.position)]

/-- What follows the answer to the greeting. -/
def afterGreeting (s : Surroundings σ) (config : Config) (settings : Option Json) (text : String)
    (case : Case) : Session σ (Except DurationFault LookupResult) := do
  notify s "initialized" (.object [])
  if let some settings := settings then Session.configure s settings
  Session.openDocument s case.uri text config.language
  if 0 < config.warmup then modify (s.rest (.ofMilliseconds config.warmup))
  lookupInTime s config case

theorem ask_eq (s : Surroundings σ) (config : Config) (startLimit : Duration) (x : σ × Client) :
    ask s config settings rootUri text case startLimit x =
      (request s "initialize" (Message.introduction x.2.processId rootUri
        (Message.folderName x.2.root) x.2.trace) startLimit >>= fun _ =>
          afterGreeting s config settings text case) x := by
  unfold ask handshake
  simp only [bind_assoc, pure_bind]
  rw [bind_of_ok (get_eq x)]
  rfl

theorem speaks_lookupInTime (hkeeps : s.Keeps heard R) {limit : Duration}
    (hlimit : Duration.ofSeconds config.timeout = .ok limit) :
    Speaks R 2 [Message.request 2 "textDocument/definition"
      (Message.position case.uri case.position)] 3 (lookupInTime s config case) := by
  unfold lookupInTime
  rw [hlimit]
  exact (speaks_lookup hkeeps _ _ limit).bind_mute fun _ => speaks_pure _

theorem speaks_afterGreeting (hkeeps : s.Keeps heard R) {limit : Duration}
    (hlimit : Duration.ofSeconds config.timeout = .ok limit) :
    Speaks R 2 (inquiry config settings text case) 3
      (afterGreeting s config settings text case) := by
  unfold afterGreeting inquiry
  have hlookup : Speaks R 2 [Message.request 2 "textDocument/definition"
      (Message.position case.uri case.position)] 3
      (if 0 < config.warmup then do
        modify (s.rest (.ofMilliseconds config.warmup)); lookupInTime s config case
      else lookupInTime s config case) := by
    split
    · exact (speaks_modify (hkeeps.rest _)).bind fun _ => speaks_lookupInTime case hkeeps hlimit
    · exact speaks_lookupInTime case hkeeps hlimit
  rw [List.append_assoc]
  refine (speaks_notify hkeeps _ _).bind fun _ => ?_
  cases settings with
  | none => exact (speaks_notify hkeeps _ _).bind fun _ => hlookup
  | some st =>
      exact (speaks_notify hkeeps _ _).bind fun _ => (speaks_notify hkeeps _ _).bind fun _ => hlookup

/-- All that is said in a session, by whether the server answered the greeting. -/
def script (c : Client) (config : Config) (settings : Option Json) (rootUri text : String)
    (case : Case) (greeted : Bool) : List Json :=
  greeting c rootUri ::
    if greeted then inquiry config settings text case ++ farewell 3 else farewell 2

/-- What is left of a session that said a script, or as much of it as was said when the writer
ended. -/
structure Transcribed (s : Surroundings σ) (heard : σ → List Json) (script : List Json) (l : Ledger)
    (x : σ × Client) : Prop where
  said : l.said x.2 <+: script
  short : l.said x.2 ≠ script → l.broken = true
  /-- Nothing behind a close is written, and the server reads what was written. -/
  written : l.written <+: beforeClose (l.queued x.2)
  heard : heard x.1 <+: beforeClose (l.queued x.2)
  /-- Another shutdown does nothing. -/
  ended : ∀ limit, shutdown s limit x = (.ok (), x)

/-- A limit that is a span of time is no fault. -/
theorem returns_ask (s : Surroundings σ) {limit : Duration} (startLimit : Duration)
    (hlimit : Duration.ofSeconds config.timeout = .ok limit) :
    Returns (fun outcome => ∃ result, outcome = .ok result)
      (ask s config settings rootUri text case startLimit) := by
  have hlookup : Returns (fun outcome => ∃ result, outcome = .ok result)
      (lookupInTime s config case) := by
    unfold lookupInTime
    rw [hlimit]
    exact returns_bind _ fun result => returns_pure ⟨result, rfl⟩
  have hshown : Returns (fun outcome => ∃ result, outcome = .ok result)
      (openDocument s case.uri text config.language >>= fun _ =>
        if 0 < config.warmup then do
          modify (s.rest (.ofMilliseconds config.warmup)); lookupInTime s config case
        else lookupInTime s config case) := by
    refine returns_bind _ fun _ => ?_
    split
    · exact returns_bind _ fun _ => hlookup
    · exact hlookup
  refine returns_bind _ fun _ => ?_
  cases settings with
  | none => exact hshown
  | some st => exact returns_bind _ fun _ => hshown

/-- A session with limits that are spans of time asks and then says goodbye. -/
theorem run_eq (s : Surroundings σ) {limit startLimit stopLimit : Duration} (name : String)
    (hstart : Duration.ofSeconds config.startTimeout = .ok startLimit)
    (hlimit : Duration.ofSeconds config.timeout = .ok limit)
    (hstop : Duration.ofSeconds config.stopTimeout = .ok stopLimit) (x : σ × Client) :
    (run s config name settings rootUri text case x).2 = (shutdown s stopLimit
      (ask s config settings rootUri text case startLimit x).2).2 := by
  unfold run leave
  rw [hstart, hstop]
  have hreturns := returns_ask settings rootUri text case s startLimit hlimit x
  simp only [bind, StateT.bind, ExceptT.run]
  generalize ask s config settings rootUri text case startLimit x = out at *
  obtain ⟨r, y⟩ := out
  cases r with
  | error failure => rfl
  | ok outcome =>
      cases outcome with
      | ok result => rfl
      | error fault => cases (hreturns _ rfl).choose_spec

/-- What was said in a session stays the transcript of it, whatever the workers still do. -/
theorem transcribed_of_utters (hkeeps : s.Keeps heard R) {script : List Json} {c : Client}
    (hfresh : Ledger.said {} c = []) (hsound : l.Sound x.2) (hutters : Utters script ({}, c) (l, x.2))
    (hended : x.2.running = false) (hR : R y.1 l') (hmoves : Moves (l, x.2) (l', y.2)) :
    Transcribed s heard script l' y := by
  have hfollows := hmoves.follows hsound
  obtain ⟨part, hpart, hprefix, hshort⟩ := (hutters.trans (.of_eq hfollows.said hfollows.broken)).said
  rw [List.append_nil] at hprefix hshort
  rw [hfresh, List.nil_append] at hpart
  subst hpart
  exact
    { said := hprefix
      short := hshort
      written := hfollows.sound.written
      heard := (hkeeps.heard _ _ hR).trans hfollows.sound.written
      ended := fun limit =>
        shutdown_of_ended s limit (hfollows.caller.running.trans hended) }

/-- Asking and saying goodbye follow the script. -/
theorem shutdown_ask_utters (hkeeps : s.Keeps heard R) {limit : Duration}
    (hlimit : Duration.ofSeconds config.timeout = .ok limit) (startLimit stopLimit : Duration)
    (h : Going R l x) (hnext : x.2.nextId = 1) (hstopping : x.2.stopping = false) :
    let greeted := (request s "initialize" (Message.introduction x.2.processId rootUri
      (Message.folderName x.2.root) x.2.trace) startLimit x).1.isOk
    let y := (shutdown s stopLimit
      (ask s config settings rootUri text case startLimit x).2).2
    ∃ l', R y.1 l' ∧ l'.Sound y.2 ∧
      Utters (script x.2 config settings rootUri text case greeted) (l, x.2) (l', y.2) ∧
      y.2.running = false := by
  dsimp only
  rw [ask_eq settings rootUri text case]
  obtain ⟨l₁, hgoes₁, hnext₁⟩ := request_goes hkeeps h "initialize" (Message.introduction
    x.2.processId rootUri (Message.folderName x.2.root) x.2.trace) startLimit
  rw [hnext] at hgoes₁ hnext₁
  generalize hout : request s "initialize" (Message.introduction x.2.processId rootUri
    (Message.folderName x.2.root) x.2.trace) startLimit x = out at *
  obtain ⟨r, y₁⟩ := out
  cases r with
  | error failure =>
      rw [bind_of_error hout]
      obtain ⟨l', hR, hsound, hutters, hended⟩ := shutdown_utters hkeeps hgoes₁.going stopLimit
        (hgoes₁.stopping.trans hstopping)
      rw [hnext₁] at hutters
      exact ⟨l', hR, hsound, hgoes₁.utters.trans hutters, hended⟩
  | ok answer =>
      rw [bind_of_ok hout]
      obtain ⟨l₂, hgoes₂, hend⟩ := speaks_afterGreeting settings text case hkeeps hlimit l₁ y₁
        hgoes₁.going hnext₁
      generalize afterGreeting s config settings text case y₁ = out at *
      obtain ⟨r', y₂⟩ := out
      obtain ⟨l', hR, hsound, hutters, hended⟩ := shutdown_utters hkeeps hgoes₂.going stopLimit
        (hgoes₂.stopping.trans (hgoes₁.stopping.trans hstopping))
      refine ⟨l', hR, hsound, (hgoes₁.utters.trans hgoes₂.utters).trans ?_, hended⟩
      cases r' with
      | ok outcome =>
          rw [← hend]
          exact hutters
      | error failure => exact hutters.of_broken hend _

/-- A session says its script, in order, and stops short of the end of it only when the writer has
ended; the server reads no more than what stands in front of the close. -/
theorem run_transcribed (hkeeps : s.Keeps heard R) {limit startLimit stopLimit : Duration}
    (hstart : Duration.ofSeconds config.startTimeout = .ok startLimit)
    (hlimit : Duration.ofSeconds config.timeout = .ok limit)
    (hstop : Duration.ofSeconds config.stopTimeout = .ok stopLimit) {outside : σ}
    (hR : R outside {}) (name : String) (root : Path) (trace : Bool) (processId : Nat)
    {greeted : Bool} (hgreeted : (request s "initialize" (Message.introduction processId rootUri
      (Message.folderName root) trace) startLimit
        (outside, { name, root, trace, processId })).1.isOk = greeted) :
    let c : Client := { name, root, trace, processId }
    let y := (run s config name settings rootUri text case (outside, c)).2
    ∃ l, R y.1 l ∧ ∀ l' z, R z.1 l' → Moves (l, y.2) (l', z.2) →
      Transcribed s heard (script c config settings rootUri text case greeted) l' z := by
  intro c y
  subst hgreeted
  have hgoing : Going R {} (outside, c) :=
    ⟨hR, ⟨fun _ => ⟨rfl, rfl⟩, nofun⟩, by simp [c, queued], rfl⟩
  obtain ⟨l, hkept, hsound, hutters, hended⟩ := shutdown_ask_utters settings rootUri text case
    hkeeps hlimit startLimit stopLimit hgoing rfl rfl
  rw [← run_eq settings rootUri text case s name hstart hlimit hstop] at hkept hsound hutters hended
  exact ⟨l, hkept, fun l' z hR' hmoves =>
    transcribed_of_utters hkeeps rfl hsound hutters hended hR' hmoves⟩

/-! ### A server that leaves early -/

/-- A process that reads one message and ends. -/
def abrupt : Wire := .ofProcess (.script { steps := [.exit 1], awaiting := 1 }) []

def abruptConfig : Config := .new (Path.ofString "/") []

def abruptClient : Client :=
  { name := "a", root := Path.ofString "/", trace := false, processId := 1 }

def abruptCase : Case := ⟨Path.ofString "/m.py", "file:///m.py", ⟨0, 0⟩, "x", "x", .name⟩

/-- The greeting is read and not answered, so the rest of the script is a farewell. -/
theorem run_transcribed_abrupt :
    let y := (run Wire.surroundings abruptConfig "a" none "file:///" "x\n" abruptCase
      (abrupt, abruptClient)).2
    ∃ l, Wire.Tells y.1 l ∧ ∀ l' z, Wire.Tells z.1 l' → Moves (l, y.2) (l', z.2) →
      Transcribed Wire.surroundings Wire.received
        [greeting abruptClient "file:///", Message.request 2 "shutdown" .null,
          Message.notification "exit" .null] l' z := by
  have hgreeted : (request Wire.surroundings "initialize" (Message.introduction 1 "file:///"
      (Message.folderName (Path.ofString "/")) false) ⟨120000000000⟩
        (abrupt, abruptClient)).1.isOk = false := by
    decide +kernel
  have hstart : Duration.ofSeconds abruptConfig.startTimeout = .ok ⟨120000000000⟩ := by
    decide +kernel
  have hlimit : Duration.ofSeconds abruptConfig.timeout = .ok ⟨10000000000⟩ := by decide +kernel
  have hstop : Duration.ofSeconds abruptConfig.stopTimeout = .ok ⟨5000000000⟩ := by decide +kernel
  have htells : Wire.Tells abrupt {} := Wire.tells_ofProcess _ _
  exact run_transcribed none "file:///" "x\n" abruptCase Wire.keeps_surroundings hstart hlimit hstop
    htells "a" (Path.ofString "/") false 1 hgreeted

end Query

end LookupBench
