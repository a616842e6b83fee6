import LookupBench.Proofs.Client.Exchange
import Mathlib.Data.List.DropRight
import Mathlib.Data.List.Forall2

/-!
# The newest lines of an error stream

What a client keeps of an error stream are the newest of its lines, 200 at most, whatever the stream
is and in whatever pieces it comes. So the text that goes with a request that reached its limit are
the newest 40 of the lines that had come by then, or all if there were fewer.

What carries this is that a line is added to the newest lines of a list by leaving out the oldest of
them, if they are as many as may be kept.
-/

namespace LookupBench

/-! ### The newest of a list -/

section

variable {α β : Type}

theorem length_rtake (l : List α) (n : Nat) : (l.rtake n).length = min n l.length := by
  rw [List.rtake, List.length_drop]
  omega

theorem rtake_of_length_le {l : List α} {n : Nat} (h : l.length ≤ n) : l.rtake n = l := by
  rw [List.rtake, Nat.sub_eq_zero_of_le h, List.drop_zero]

theorem rtake_rtake (l : List α) (m n : Nat) : (l.rtake n).rtake m = l.rtake (min m n) := by
  rw [List.rtake, length_rtake, List.rtake, List.rtake, List.drop_drop]
  congr 1
  omega

theorem map_rtake (f : α → β) (l : List α) (n : Nat) :
    (l.rtake n).map f = (l.map f).rtake n := by
  rw [List.rtake, List.rtake, List.map_drop, List.length_map]

/-- What is left of the newest when there has to be room for one more. -/
theorem rtake_of_room (l : List α) (n : Nat) :
    (if (l.rtake (n + 1)).length = n + 1 then (l.rtake (n + 1)).drop 1 else l.rtake (n + 1))
      = l.rtake n := by
  rw [length_rtake]
  split
  next hfull =>
    rw [List.rtake, List.rtake, List.drop_drop]
    congr 1
    omega
  next hroom =>
    have hshort : l.length ≤ n := by omega
    rw [rtake_of_length_le (Nat.le_succ_of_le hshort), rtake_of_length_le hshort]

end

/-! ### Streams -/

/-- The error stream of a server, as far as it has come. -/
structure ErrorStream where
  octets : Bytes := []
  finished : Bool := false

namespace ErrorStream

/-- The lines that a line feed has ended. -/
def ended (stream : ErrorStream) : List Bytes := (stream.octets.splitOn 10).dropLast

/-- What stands behind the last line feed. -/
def rest (stream : ErrorStream) : Bytes := (stream.octets.splitOn 10).getLastD []

/-- The lines of a stream so far. What stands behind the last line feed is one of them when the
stream is over, unless it is empty. -/
def lines (stream : ErrorStream) : List Bytes :=
  stream.ended ++ if stream.finished = true ∧ stream.rest ≠ [] then [stream.rest] else []

end ErrorStream

namespace ErrorTail

/-- What a line reads: its octets as text, without any of the carriage returns at the end. -/
def Shows (line : Bytes) (text : String) : Prop :=
  (∃ count, Utf8.decodeLossy line = text.toList ++ List.replicate count '\r') ∧
    text.toList.getLast? ≠ some '\r'

/-- A text is that of the newest lines, so many at most, with a line feed between any two. -/
def Quotes (count : Nat) (lines : List Bytes) (text : String) : Prop :=
  ∃ texts, List.Forall₂ Shows (lines.rtake count) texts ∧ text = "\n".intercalate texts

/-- The newest of the lines are kept, in order, and of these the newest can be had as one text. -/
structure Keeps (tail : ErrorTail) (lines : List Bytes) : Prop where
  kept : List.Forall₂ Shows (lines.rtake 200) tail.lines
  length : tail.lines.length = min 200 lines.length
  text : ∀ count, Quotes (min count 200) lines (tail.text count)

/-! ### Lines -/

theorem shows_lineText (line : Bytes) : Shows line (lineText line) := by
  have htext : (lineText line).toList = (Utf8.decodeLossy line).rdropWhile (· = '\r') :=
    String.toList_ofList
  rw [Shows, htext]
  constructor
  · refine ⟨((Utf8.decodeLossy line).rtakeWhile (· = '\r')).length, ?_⟩
    have hreturns : (Utf8.decodeLossy line).rtakeWhile (· = '\r')
        = List.replicate ((Utf8.decodeLossy line).rtakeWhile (· = '\r')).length '\r' :=
      List.eq_replicate_of_mem fun c hc => by simpa using List.mem_rtakeWhile_imp hc
    rw [← hreturns, List.rdropWhile_append_rtakeWhile]
  · intro hlast
    have hne : (Utf8.decodeLossy line).rdropWhile (· = '\r') ≠ [] := by
      rintro hnil
      simp [hnil] at hlast
    rw [List.getLast?_eq_some_getLast hne] at hlast
    exact List.rdropWhile_last_not _ _ hne (by simpa using hlast)

/-- The newest of the lines are kept as their texts. -/
def IsNewest (tail : ErrorTail) (lines : List Bytes) : Prop :=
  tail.lines = (lines.map lineText).rtake limit

theorem isNewest_nil : IsNewest {} [] := rfl

theorem IsNewest.push {tail : ErrorTail} {lines : List Bytes} (h : tail.IsNewest lines)
    (line : Bytes) : (tail.push line).IsNewest (lines ++ [line]) := by
  have hkept : (if tail.lines.length = limit then tail.lines.drop 1 else tail.lines)
      = (lines.map lineText).rtake 199 := by
    rw [h]
    exact rtake_of_room _ 199
  rw [IsNewest, List.map_append]
  exact (congrArg (· ++ [lineText line]) hkept).trans (List.rtake_concat_succ _ _ _).symm

theorem IsNewest.keeps {tail : ErrorTail} {lines : List Bytes} (h : tail.IsNewest lines) :
    tail.Keeps lines := by
  have hshows : ∀ lines : List Bytes, List.Forall₂ Shows lines (lines.map lineText) := by
    intro lines
    exact List.forall₂_map_right_iff.2 (List.forall₂_same.2 fun line _ => shows_lineText line)
  have htexts : ∀ count, tail.lines.rtake count = (lines.rtake (min count 200)).map lineText := by
    intro count
    rw [h, rtake_rtake, map_rtake]
    rfl
  constructor
  · rw [h, ← map_rtake]
    exact hshows _
  · rw [h, length_rtake, List.length_map]
    rfl
  · exact fun count => ⟨_, hshows _, congrArg _ (htexts count)⟩

/-! ### Octets -/

theorem feed_append (octets more : Bytes) (tail : ErrorTail) :
    tail.feed (octets ++ more) = (tail.feed octets).feed more := by
  induction octets generalizing tail with
  | nil => rfl
  | cons b octets ih => exact ih _

/-- Hearing on at a moment when some lines are done and part of the next has come. -/
theorem feed_isNewest (octets : Bytes) {tail : ErrorTail} {done : List Bytes} {part : Bytes}
    (hnewest : tail.IsNewest done) (hpart : tail.partialLine = part.reverse)
    (hline : (10 : UInt8) ∉ part) :
    (tail.feed octets).IsNewest (done ++ ((part ++ octets).splitOn 10).dropLast) ∧
      (tail.feed octets).partialLine.reverse = ((part ++ octets).splitOn 10).getLastD [] := by
  induction octets generalizing tail done part with
  | nil =>
      rw [List.append_nil, List.splitOn_eq_singleton hline, feed, hpart, List.reverse_reverse]
      exact ⟨by simpa using hnewest, rfl⟩
  | cons b octets ih =>
      rw [feed]
      split
      next hfeed =>
        -- the part is done, and nothing of the next line has come
        subst hfeed
        have hended : tail.endLine.IsNewest (done ++ [part]) := by
          rw [endLine, hpart, List.reverse_reverse]
          exact hnewest.push part
        have hlater := @ih tail.endLine (done ++ [part]) [] hended rfl List.not_mem_nil
        rw [List.nil_append] at hlater
        rw [List.splitOn_append_cons_self_of_not_mem hline]
        obtain ⟨first, more, hsplit⟩ := List.exists_cons_of_ne_nil (List.splitOn_ne_nil 10 octets)
        rw [hsplit] at hlater ⊢
        rw [List.append_assoc] at hlater
        exact hlater
      next hother =>
        have hlater := @ih { tail with partialLine := b :: tail.partialLine } done (part ++ [b])
          hnewest (by simp [hpart]) (by simp [hline, Ne.symm hother])
        rwa [List.append_assoc] at hlater

/-- What stands behind the last line feed becomes a line, unless it is empty. -/
theorem IsNewest.finish {tail : ErrorTail} {done : List Bytes} {rest : Bytes}
    (h : tail.IsNewest done) (hrest : tail.partialLine.reverse = rest) :
    tail.finish.IsNewest (done ++ if rest ≠ [] then [rest] else []) := by
  subst hrest
  unfold ErrorTail.finish
  by_cases hempty : tail.partialLine = []
  · simpa [hempty] using h
  · simpa [hempty, endLine, IsNewest] using h.push tail.partialLine.reverse

/-- What is kept of a stream. -/
def ofStream (stream : ErrorStream) : ErrorTail :=
  if stream.finished then (({} : ErrorTail).feed stream.octets).finish
  else ({} : ErrorTail).feed stream.octets

theorem keeps_ofStream (stream : ErrorStream) : (ofStream stream).Keeps stream.lines := by
  obtain ⟨octets, finished⟩ := stream
  obtain ⟨hended, hrest⟩ := @feed_isNewest octets {} [] [] isNewest_nil rfl List.not_mem_nil
  apply IsNewest.keeps
  cases finished with
  | false => simpa [ofStream, ErrorStream.lines, ErrorStream.ended] using hended
  | true =>
      have hfinish := hended.finish hrest
      simpa [ofStream, ErrorStream.lines, ErrorStream.ended, ErrorStream.rest] using hfinish

example : (ofStream ⟨Utf8.encode "a\r\r\n\nb", true⟩).lines = ["a", "", "b"] := by decide +kernel

end ErrorTail

namespace Client

theorem tail_of_send {c c' : Client} {m : Json} (h : c.send m = .ok c') : c'.tail = c.tail := by
  unfold send at h
  split at h <;> cases h
  rfl

/-- The newest lines go with a request that reached its limit, whatever its caller found. -/
theorem text_of_conclude {c : Client} {method server label text : String}
    {limit limit' : Duration} {found : Awaited}
    (h : c.conclude method limit found = .error (.timeout server label limit' text)) :
    text = c.tail.text 40 := by
  cases found with
  | answered m =>
      rw [conclude, result] at h
      split at h <;> cases h
  | closed => cases h
  | waiting =>
      cases h
      rfl

end Client

namespace Exchange

/-- Any moves in any order, and what came of the error stream meanwhile. When the stream is over its
reader ends. -/
inductive Listening (s₀ : Exchange) : ErrorStream → Exchange → Prop where
  | start : Listening s₀ {} s₀
  | hear {octets : Bytes} {s : Exchange} (bytes : Bytes) (h : Listening s₀ ⟨octets, false⟩ s) :
      Listening s₀ ⟨octets ++ bytes, false⟩ { s with client := s.client.hear bytes }
  | finish {octets : Bytes} {s : Exchange} (h : Listening s₀ ⟨octets, false⟩ s) :
      Listening s₀ ⟨octets, true⟩ { s with client := s.client.endOfErrors }
  /-- A move of anybody else. -/
  | other {stream : ErrorStream} {s s' : Exchange} {e : Event} (h : Listening s₀ stream s)
      (hstep : Step s e s') (htail : s'.client.tail = s.client.tail) : Listening s₀ stream s'

variable {s₀ s s' : Exchange} {e : Event} {stream : ErrorStream}

theorem CallerAside.tail {c c' : Client} (h : CallerAside c c') : c'.tail = c.tail := by
  cases h with
  | notify hsend => exact Client.tail_of_send hsend
  | collect => rfl
  | close => unfold Client.close; split <;> rfl

/-- Nobody but its own reader has to do with the error stream. -/
theorem Step.tail (h : Step s e s') : s'.client.tail = s.client.tail ∨
    (∃ bytes, s' = { s with client := s.client.hear bytes }) ∨
    s' = { s with client := s.client.endOfErrors } := by
  cases h with
  | post hphase hsend => exact .inl (Client.tail_of_send hsend)
  | callerAside hphase haside => exact .inl haside.tail
  | workerAside haside =>
      cases haside with
      | write hnext =>
          unfold Client.nextOutbound at hnext
          split at hnext <;> cases hnext
          exact .inl rfl
      | stopWriting | stopReading => exact .inl rfl
      | hear bytes => exact .inr (.inl ⟨bytes, rfl⟩)
      | endOfErrors => exact .inr (.inr rfl)
  | start | refuse | settle | retire | claim | handOver | drop | route | finish => exact .inl rfl

/-- Until the stream is over no move is left out. -/
theorem Listening.step {octets : Bytes} (h : Listening s₀ ⟨octets, false⟩ s) (hstep : Step s e s') :
    ∃ later, octets <+: later.octets ∧ Listening s₀ later s' := by
  rcases hstep.tail with htail | ⟨bytes, rfl⟩ | rfl
  · exact ⟨_, List.prefix_refl _, .other h hstep htail⟩
  · exact ⟨_, List.prefix_append _ _, .hear bytes h⟩
  · exact ⟨_, List.prefix_refl _, .finish h⟩

/-- What a client has of the error stream does not depend on the pieces in which it came. -/
theorem Listening.tail_eq (h : Listening s₀ stream s) (hnew : s₀.client.tail = {}) :
    s.client.tail = .ofStream stream := by
  induction h with
  | start => exact hnew
  | hear bytes _ ih =>
      refine (congrArg (ErrorTail.feed bytes) ih).trans ?_
      exact (ErrorTail.feed_append _ bytes {}).symm
  | finish _ ih => exact congrArg ErrorTail.finish ih
  | other _ _ htail ih => exact htail.trans ih

/-- A request reaches its limit only when its caller settles, and then the newest lines go with
it. -/
theorem Step.timeout_eq {id : Nat} {method server label text : String} {limit : Duration}
    (h : Step s e s')
    (hphase : s'.phase = .settled id method (.error (.timeout server label limit text)))
    (hnew : s.phase ≠ s'.phase) : text = s.client.tail.text 40 := by
  cases h with
  | refuse _ hsend =>
      cases hphase
      unfold Client.send at hsend
      split at hsend <;> cases hsend
  | settle =>
      simp only [Phase.settled.injEq] at hphase
      exact Client.text_of_conclude hphase.2.2
  | start | post | retire => cases hphase
  | callerAside | claim | handOver | drop | route | finish | workerAside => exact absurd rfl hnew

/-- Whatever an error stream is, its newest lines are kept: of what came so far at any moment, and
of the whole stream when it is over. So they are in any exchange, in whatever pieces the stream
comes and whatever else goes on, and a request that reaches its limit carries the newest 40. -/
theorem newest_kept (name : String) (root : Path) (trace : Bool) (processId : Nat) :
    (∀ octets, (({} : ErrorTail).feed octets).Keeps (ErrorStream.lines ⟨octets, false⟩) ∧
      (({} : ErrorTail).feed octets).finish.Keeps (ErrorStream.lines ⟨octets, true⟩)) ∧
    ∀ stream s, Listening (.opening name root trace processId) stream s →
      s.client.tail.Keeps stream.lines ∧
      ∀ e s', Step s e s' →
        (stream.finished = false → ∃ later, stream.octets <+: later.octets ∧
          Listening (.opening name root trace processId) later s') ∧
        ∀ id method server label limit text,
          s'.phase = .settled id method (.error (.timeout server label limit text)) →
            s.phase ≠ s'.phase → ErrorTail.Quotes 40 stream.lines text := by
  constructor
  · intro octets
    exact ⟨ErrorTail.keeps_ofStream ⟨octets, false⟩, ErrorTail.keeps_ofStream ⟨octets, true⟩⟩
  · intro stream s h
    have hkeeps : s.client.tail.Keeps stream.lines := by
      rw [h.tail_eq rfl]
      exact ErrorTail.keeps_ofStream stream
    refine ⟨hkeeps, fun e s' hstep => ⟨?_, ?_⟩⟩
    · obtain ⟨octets, finished⟩ := stream
      rintro rfl
      exact h.step hstep
    · intro id method server label limit text hphase hnew
      rw [hstep.timeout_eq hphase hnew]
      exact hkeeps.text 40

/-- A request waits for its answer, and so much of the error stream has come. -/
theorem exists_listening (octets : Bytes) :
    ∃ s, Listening (.opening "a" [] false 1) ⟨octets, false⟩ s ∧ s.phase = .waiting 1 "m" ∧
      s.client.name = "a" ∧ s.client.tail = ({} : ErrorTail).feed octets ∧
      s.sight 1 = .waiting := by
  have h₁ : Listening (.opening "a" [] false 1) ⟨octets, false⟩ _ := .hear octets .start
  have h₂ := h₁.other (.start _ "m" .null rfl) rfl
  have h₃ := h₂.other (.post _ rfl rfl) rfl
  exact ⟨_, h₃, rfl, rfl, rfl, rfl⟩

/-- More lines than go with a request, and the beginning of another. -/
def chatty : Bytes :=
  ((List.range 42).flatMap fun n => Utf8.encode (Decimal.natText n ++ "\r\n")) ++ Utf8.encode "42"

/-- The newest 40 whole lines of these. -/
def chattyText : String := "\n".intercalate ((List.range' 2 40).map Decimal.natText)

theorem newest_kept_chatty : ∃ s e s', Listening (.opening "a" [] false 1) ⟨chatty, false⟩ s ∧
    Step s e s' ∧ s.phase ≠ s'.phase ∧
    s'.phase = .settled 1 "m" (.error (.timeout "a" "m" ⟨500⟩ chattyText)) ∧
    s.client.tail.Keeps (ErrorStream.lines ⟨chatty, false⟩) ∧
    ErrorTail.Quotes 40 (ErrorStream.lines ⟨chatty, false⟩) chattyText := by
  obtain ⟨s, hlistening, hphase, hname, htail, hsight⟩ := exists_listening chatty
  have htext : (({} : ErrorTail).feed chatty).text 40 = chattyText := by decide +kernel
  have hstep := Step.settle s ⟨500⟩ hphase
  have hsettled : s.client.conclude "m" ⟨500⟩ (s.sight 1)
      = .error (.timeout "a" "m" ⟨500⟩ chattyText) := by
    rw [hsight, Client.conclude, hname, htail, ← htext]
    rfl
  rw [hsettled] at hstep
  have hnew : s.phase ≠ .settled 1 "m" (.error (.timeout "a" "m" ⟨500⟩ chattyText)) := by
    rw [hphase]
    nofun
  obtain ⟨hkeeps, hsteps⟩ := (newest_kept "a" [] false 1).2 _ s hlistening
  have hquotes := (hsteps _ _ hstep).2 1 "m" "a" "m" ⟨500⟩ chattyText rfl hnew
  exact ⟨s, _, _, hlistening, hstep, hnew, rfl, hkeeps, hquotes⟩

end Exchange

end LookupBench
