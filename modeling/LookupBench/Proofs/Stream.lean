import LookupBench.Frame
import Mathlib.Data.List.Basic

/-!
# Any octets as a stream of messages

What the reading of messages comes to on octets of any kind, said without a bound on the steps. Each
call passes blocks until one holds a message, until the input is over, or until a block gives a length
that there is no buffer for. Only the last is no end of the input, and nothing but such a length leads
to it. More input behind a message does not change the message.
-/

namespace LookupBench.Frame

/-! ### Lines -/

theorem splitLine_cons_of_ne {b : UInt8} (hb : b ≠ 10) (input : Bytes) :
    splitLine (b :: input) = (b :: (splitLine input).1, (splitLine input).2) := by
  rw [splitLine, if_neg hb]

theorem splitLine_newline (input : Bytes) : splitLine (10 :: input) = ([10], input) := rfl

/-- The first line and what follows it are the input. -/
theorem splitLine_join (input : Bytes) : (splitLine input).1 ++ (splitLine input).2 = input := by
  induction input with
  | nil => rfl
  | cons b input ih =>
      by_cases hb : b = 10
      · rw [hb]
        rfl
      · rw [splitLine_cons_of_ne hb, List.cons_append, ih]

theorem splitLine_length_lt {input : Bytes} (hinput : input ≠ []) :
    (splitLine input).2.length < input.length := by
  obtain ⟨b, input, rfl⟩ := List.exists_cons_of_ne_nil hinput
  have hjoin := congrArg List.length (splitLine_join input)
  rw [List.length_append] at hjoin
  rw [List.length_cons]
  by_cases hb : b = 10
  · rw [hb, splitLine_newline]
    exact Nat.lt_succ_self _
  · rw [splitLine_cons_of_ne hb]
    dsimp only
    omega

/-- Whatever goes over from what follows the first line to the whole holds of all inputs. -/
theorem byLines {P : Bytes → Prop} (nil : P [])
    (line : ∀ input, input ≠ [] → P (splitLine input).2 → P input) (input : Bytes) : P input := by
  generalize hn : input.length = n
  induction n using Nat.strongRecOn generalizing input with
  | _ n ih =>
      by_cases hinput : input = []
      · rw [hinput]
        exact nil
      · exact line input hinput (ih _ (hn ▸ splitLine_length_lt hinput) _ rfl)

/-- What stands behind the first line is over if the whole input is. -/
def Ended (input rest : Bytes) : Prop := rest ≠ [] ∨ input.getLast? = some 10

/-- A line that is over does not change when more follows. -/
theorem splitLine_append_of_ended {input : Bytes} (h : Ended input (splitLine input).2)
    (more : Bytes) :
    splitLine (input ++ more) = ((splitLine input).1, (splitLine input).2 ++ more) := by
  induction input with
  | nil => simp [Ended, splitLine] at h
  | cons b input ih =>
      by_cases hb : b = 10
      · rw [hb]
        rfl
      · rw [splitLine_cons_of_ne hb] at h
        rw [List.cons_append, splitLine_cons_of_ne hb, splitLine_cons_of_ne hb, ih]
        refine h.imp_right fun hlast => ?_
        cases input with
        | nil => exact absurd (Option.some.inj hlast) hb
        | cons d input => rwa [List.getLast?_cons_cons] at hlast

/-- An end of an input ends as the input does. -/
theorem Ended.of_suffix {input tail rest : Bytes} (h : Ended input rest) (hsuffix : tail <:+ input)
    (htail : tail ≠ []) : Ended tail rest := by
  obtain ⟨block, rfl⟩ := hsuffix
  exact h.imp_right fun hlast => by rwa [List.getLast?_append_of_ne_nil _ htail] at hlast

theorem splitLine_suffix (input : Bytes) : (splitLine input).2 <:+ input :=
  ⟨_, splitLine_join input⟩

/-! ### Headers -/

section Headers

variable {inside : Bool} {length l : Option Nat} {input rest : Bytes}

/-- Each line takes an octet, so steps beyond the number of octets make no difference. -/
theorem header_fuel {fuel fuel' : Nat} (h : input.length < fuel) (h' : input.length < fuel') :
    header fuel inside length input = header fuel' inside length input := by
  induction fuel generalizing fuel' inside length input with
  | zero => omega
  | succ fuel ih =>
      obtain ⟨fuel', rfl⟩ := Nat.exists_eq_succ_of_ne_zero (Nat.ne_zero_of_lt h')
      cases input with
      | nil => rfl
      | cons b input =>
          have hline := splitLine_length_lt (List.cons_ne_nil b input)
          have hsame : ∀ inside length, header fuel inside length (splitLine (b :: input)).2
              = header fuel' inside length (splitLine (b :: input)).2 := fun inside length =>
            ih (by omega) (by omega)
          rw [header, header]
          simp only [hsame]

/-- The header lines that an input starts with, up to the blank line behind them. -/
def head (inside : Bool) (length : Option Nat) (input : Bytes) : Option (Option Nat × Bytes) :=
  header (input.length + 1) inside length input

/-- The line that an input starts with, as text. -/
def firstLine (input : Bytes) : List Char := trim (Utf8.decodeLossy (splitLine input).1)

theorem head_eq (hinput : input ≠ []) :
    head inside length input =
      if (firstLine input).isEmpty then
        if inside then some (length, (splitLine input).2)
        else head false length (splitLine input).2
      else head true ((lengthOf? (firstLine input)).getD length) (splitLine input).2 := by
  have hline := splitLine_length_lt hinput
  have hsame : ∀ inside length, header input.length inside length (splitLine input).2
      = head inside length (splitLine input).2 := fun inside length =>
    header_fuel hline (Nat.lt_succ_self _)
  rw [← hsame, ← hsame]
  obtain ⟨b, input, rfl⟩ := List.exists_cons_of_ne_nil hinput
  rfl

theorem head_length_lt (h : head inside length input = some (l, rest)) :
    rest.length < input.length := by
  induction input using byLines generalizing inside length with
  | nil => cases h
  | line input hinput ih =>
      have hline := splitLine_length_lt hinput
      rw [head_eq hinput] at h
      split at h
      · split at h
        · cases h
          exact hline
        · exact Nat.lt_trans (ih h) hline
      · exact Nat.lt_trans (ih h) hline

theorem head_suffix (h : head inside length input = some (l, rest)) : rest <:+ input := by
  induction input using byLines generalizing inside length with
  | nil => cases h
  | line input hinput ih =>
      have hline := splitLine_suffix input
      rw [head_eq hinput] at h
      split at h
      · split at h
        · cases h
          exact hline
        · exact (ih h).trans hline
      · exact (ih h).trans hline

/-- A header that is over does not change when more follows. -/
theorem head_append (h : head inside length input = some (l, rest)) (hended : Ended input rest)
    (more : Bytes) : head inside length (input ++ more) = some (l, rest ++ more) := by
  induction input using byLines generalizing inside length with
  | nil => cases h
  | line input hinput ih =>
      rw [head_eq hinput] at h
      -- behind a line that is not the last of the header there is something
      have hlater : ∀ {inside length}, head inside length (splitLine input).2 = some (l, rest) →
          (splitLine input).2 ≠ [] := by
        intro inside length h heq
        rw [heq] at h
        cases h
      have hwhole : Ended input (splitLine input).2 := by
        split at h
        · split at h
          · cases h
            exact hended
          · exact .inl (hlater h)
        · exact .inl (hlater h)
      have hsplit := splitLine_append_of_ended hwhole more
      have hfirst : firstLine (input ++ more) = firstLine input := by
        rw [firstLine, hsplit, firstLine]
      rw [head_eq (List.append_ne_nil_of_left_ne_nil hinput more), hfirst, hsplit]
      split at h
      next hblank =>
        rw [if_pos hblank]
        split at h
        next hinside =>
          cases h
          rw [if_pos hinside]
        next hinside =>
          rw [if_neg hinside]
          exact ih h (hended.of_suffix (splitLine_suffix input) (hlater h))
      next hblank =>
        rw [if_neg hblank]
        exact ih h (hended.of_suffix (splitLine_suffix input) (hlater h))

end Headers

/-! ### One message -/

/-- One block is passed: it gives no length, or its body has a buffer and is all there. -/
inductive Passes (limit : Nat) : Bytes → Bytes → Prop where
  | noLength {input rest : Bytes} (hhead : head false none input = some (none, rest)) :
      Passes limit input rest
  | body {input rest : Bytes} {n : Nat} (hhead : head false none input = some (some n, rest))
      (hfits : refusal? limit n = none) (hthere : n ≤ rest.length) :
      Passes limit input (rest.drop n)

/-- What a call comes to, block by block. -/
inductive ReadsTo (limit : Nat) : Bytes → Outcome → Prop where
  | ended {input : Bytes} (hhead : head false none input = none) : ReadsTo limit input .finished
  | truncated {input rest : Bytes} {n : Nat} (hhead : head false none input = some (some n, rest))
      (hfits : refusal? limit n = none) (hshort : rest.length < n) : ReadsTo limit input .finished
  | refused {input rest : Bytes} {n : Nat} {refusal : Refusal}
      (hhead : head false none input = some (some n, rest))
      (hbig : refusal? limit n = some refusal) : ReadsTo limit input (.refused refusal rest)
  | message {input rest : Bytes} {n : Nat} {m : Json}
      (hhead : head false none input = some (some n, rest)) (hfits : refusal? limit n = none)
      (hthere : n ≤ rest.length) (hbody : Json.ofBytes? (rest.take n) = some m) :
      ReadsTo limit input (.message m (rest.drop n))
  | noLength {input rest : Bytes} {outcome : Outcome}
      (hhead : head false none input = some (none, rest)) (hrest : ReadsTo limit rest outcome) :
      ReadsTo limit input outcome
  | noJson {input rest : Bytes} {n : Nat} {outcome : Outcome}
      (hhead : head false none input = some (some n, rest)) (hfits : refusal? limit n = none)
      (hthere : n ≤ rest.length) (hbody : Json.ofBytes? (rest.take n) = none)
      (hrest : ReadsTo limit (rest.drop n) outcome) : ReadsTo limit input outcome

section Read

variable {limit : Nat} {input rest : Bytes} {outcome : Outcome} {m : Json}

theorem Passes.length_lt (h : Passes limit input rest) : rest.length < input.length := by
  cases h with
  | noLength hhead => exact head_length_lt hhead
  | body hhead => exact Nat.lt_of_le_of_lt (List.drop_sublist _ _).length_le (head_length_lt hhead)

theorem Passes.length_lt_of_lt_succ {fuel : Nat} (h : Passes limit input rest)
    (hfuel : input.length < fuel + 1) : rest.length < fuel :=
  Nat.lt_of_lt_of_le h.length_lt (Nat.le_of_lt_succ hfuel)

/-- Each block takes an octet, so there are steps enough. -/
theorem readsTo_readWith {fuel : Nat} (h : input.length < fuel) :
    ReadsTo limit input (readWith limit fuel input) := by
  induction fuel generalizing input with
  | zero => omega
  | succ fuel ih =>
      rw [readWith, ← head]
      split
      next hhead => exact .ended hhead
      next rest hhead =>
        exact .noLength hhead (ih ((@Passes.noLength limit _ _ hhead).length_lt_of_lt_succ h))
      next n rest hhead =>
        split
        next refusal hbig => exact .refused hhead hbig
        next hfits =>
          split
          next hshort => exact .truncated hhead hfits hshort
          next hshort =>
            have hthere := Nat.le_of_not_lt hshort
            split
            next m hbody => exact .message hhead hfits hthere hbody
            next hbody =>
              have hpass := Passes.body hhead hfits hthere
              exact .noJson hhead hfits hthere hbody (ih (hpass.length_lt_of_lt_succ h))

theorem readsTo_read (input : Bytes) (limit : Nat) : ReadsTo limit input (read input limit) :=
  readsTo_readWith (Nat.lt_succ_self _)

theorem ReadsTo.readWith_eq {fuel : Nat} (h : ReadsTo limit input outcome)
    (hfuel : input.length < fuel) : readWith limit fuel input = outcome := by
  induction fuel generalizing input with
  | zero => omega
  | succ fuel ih =>
      rw [readWith, ← head]
      cases h with
      | ended hhead => rw [hhead]
      | noLength hhead hrest =>
          rw [hhead]
          exact ih hrest ((@Passes.noLength limit _ _ hhead).length_lt_of_lt_succ hfuel)
      | refused hhead hbig =>
          rw [hhead]
          simp only [hbig]
      | truncated hhead hfits hshort =>
          rw [hhead]
          simp only [hfits, if_pos hshort]
      | message hhead hfits hthere hbody =>
          rw [hhead]
          simp only [hfits, if_neg (Nat.not_lt_of_le hthere), hbody]
      | noJson hhead hfits hthere hbody hrest =>
          rw [hhead]
          simp only [hfits, if_neg (Nat.not_lt_of_le hthere), hbody]
          exact ih hrest ((Passes.body hhead hfits hthere).length_lt_of_lt_succ hfuel)

theorem ReadsTo.eq (h : ReadsTo limit input outcome) : read input limit = outcome :=
  h.readWith_eq (Nat.lt_succ_self _)

/-- A call comes to one thing only. -/
theorem ReadsTo.unique {outcome' : Outcome} (h : ReadsTo limit input outcome)
    (h' : ReadsTo limit input outcome') : outcome = outcome' :=
  h.eq.symm.trans h'.eq

/-- A message takes an octet. -/
theorem ReadsTo.length_lt (h : ReadsTo limit input outcome) :
    ∀ m rest, outcome = .message m rest → rest.length < input.length := by
  induction h with
  | message hhead hfits hthere =>
      rintro m rest ⟨⟩
      exact (Passes.body hhead hfits hthere).length_lt
  | noLength hhead _ ih =>
      exact fun m rest heq => Nat.lt_trans (ih m rest heq) (head_length_lt hhead)
  | noJson hhead hfits hthere _ _ ih =>
      exact fun m rest heq =>
        Nat.lt_trans (ih m rest heq) (Passes.body hhead hfits hthere).length_lt
  | ended | truncated | refused =>
      rintro m rest ⟨⟩

/-! ### More input -/

/-- More input may not change what a call came to. -/
def Outcome.Settled (input : Bytes) : Outcome → Prop
  | .message _ _ => True
  | .finished => False
  | .refused _ rest => Ended input rest

/-- An outcome with more input behind what it left. -/
def Outcome.followedBy (more : Bytes) : Outcome → Outcome
  | .message m rest => .message m (rest ++ more)
  | .finished => .finished
  | .refused refusal rest => .refused refusal (rest ++ more)

theorem ReadsTo.settled_rest (h : ReadsTo limit rest outcome) (hsettled : outcome.Settled input)
    (hsuffix : rest <:+ input) : rest ≠ [] ∧ outcome.Settled rest := by
  have hrest : rest ≠ [] := by
    rintro rfl
    rw [h.unique (.ended rfl)] at hsettled
    exact hsettled
  refine ⟨hrest, ?_⟩
  cases outcome with
  | message => trivial
  | finished => exact hsettled
  | refused refusal rest' => exact Ended.of_suffix hsettled hsuffix hrest

theorem ReadsTo.append (h : ReadsTo limit input outcome) (hsettled : outcome.Settled input)
    (more : Bytes) : ReadsTo limit (input ++ more) (outcome.followedBy more) := by
  induction h with
  | ended => exact hsettled.elim
  | truncated => exact hsettled.elim
  | refused hhead hbig => exact .refused (head_append hhead hsettled more) hbig
  | @message input rest n m hhead hfits hthere hbody =>
      -- nothing is no text of a message
      have hrest : rest ≠ [] := by
        rintro rfl
        have hnone : Json.ofBytes? [] = none :=
          Option.isNone_iff_eq_none.1 (by decide +kernel)
        rw [List.take_nil, hnone] at hbody
        cases hbody
      have htake : (rest ++ more).take n = rest.take n := List.take_append_of_le_length hthere
      have hdrop : (rest ++ more).drop n = rest.drop n ++ more :=
        List.drop_append_of_le_length hthere
      rw [Outcome.followedBy, ← hdrop]
      exact .message (head_append hhead (.inl hrest) more) hfits
        (Nat.le_trans hthere (by simp)) (htake ▸ hbody)
  | noLength hhead hrest ih =>
      obtain ⟨hne, hsettled'⟩ := hrest.settled_rest hsettled (head_suffix hhead)
      exact .noLength (head_append hhead (.inl hne) more) (ih hsettled')
  | @noJson input rest n outcome hhead hfits hthere hbody hrest ih =>
      obtain ⟨hne, hsettled'⟩ := hrest.settled_rest hsettled
        ((List.drop_suffix n rest).trans (head_suffix hhead))
      have hne' : rest ≠ [] := by
        rintro rfl
        exact hne List.drop_nil
      have htake : (rest ++ more).take n = rest.take n := List.take_append_of_le_length hthere
      have hdrop : (rest ++ more).drop n = rest.drop n ++ more :=
        List.drop_append_of_le_length hthere
      exact .noJson (head_append hhead (.inl hne') more) hfits (Nat.le_trans hthere (by simp))
        (htake ▸ hbody) (hdrop ▸ ih hsettled')

end Read

/-! ### Lengths that are too large -/

section Refuses

variable {limit : Nat} {input rest : Bytes}

/-- A block that is come to gives a length that there is no buffer for. -/
inductive Refuses (limit : Nat) (refusal : Refusal) : Bytes → Prop where
  | here {input rest : Bytes} {n : Nat} (hhead : head false none input = some (some n, rest))
      (hbig : refusal? limit n = some refusal) : Refuses limit refusal input
  | later {input rest : Bytes} (hpass : Passes limit input rest)
      (hrest : Refuses limit refusal rest) : Refuses limit refusal input

theorem Passes.unique {rest' : Bytes} (h : Passes limit input rest)
    (h' : Passes limit input rest') : rest = rest' := by
  cases h <;> cases h' <;> simp_all

theorem Passes.refuses_iff (h : Passes limit input rest) (refusal : Refusal) :
    Refuses limit refusal input ↔ Refuses limit refusal rest := by
  refine ⟨fun hrefuses => ?_, .later h⟩
  cases hrefuses with
  | later hpass hrest => rwa [h.unique hpass]
  | here hhead hbig =>
      cases h with
      | noLength hhead' => simp [hhead] at hhead'
      | body hhead' hfits =>
          rw [hhead] at hhead'
          cases hhead'
          simp [hfits] at hbig

/-- A call that finds the end has come to no such block, and one that breaks off has come to one, for
which there is no buffer for the same reason. -/
theorem ReadsTo.refuses {outcome : Outcome} (h : ReadsTo limit input outcome)
    (refusal : Refusal) : match outcome with
    | .message _ rest => Refuses limit refusal input ↔ Refuses limit refusal rest
    | .finished => ¬Refuses limit refusal input
    | .refused refusal' _ => Refuses limit refusal input ↔ refusal' = refusal := by
  induction h with
  | ended hhead =>
      rintro (⟨hhead', -⟩ | ⟨hpass, -⟩)
      · simp [hhead] at hhead'
      · cases hpass <;> simp_all
  | truncated hhead hfits hshort =>
      rintro (⟨hhead', hbig⟩ | ⟨hpass, -⟩)
      · simp_all
      · cases hpass <;> simp_all
        omega
  | refused hhead hbig =>
      constructor
      · rintro (⟨hhead', hbig'⟩ | ⟨hpass, -⟩)
        · simp_all
        · cases hpass <;> simp_all
      · rintro rfl
        exact .here hhead hbig
  | message hhead hfits hthere _ => exact (Passes.body hhead hfits hthere).refuses_iff refusal
  | @noLength input rest outcome hhead hrest ih =>
      have hiff := (@Passes.noLength limit _ _ hhead).refuses_iff refusal
      cases outcome <;> simp_all
  | @noJson input rest n outcome hhead hfits hthere _ hrest ih =>
      have hiff := (Passes.body hhead hfits hthere).refuses_iff refusal
      cases outcome <;> simp_all

end Refuses

/-! ### All messages -/

/-- Messages are read one behind the other, and this is left. -/
inductive Takes (limit : Nat) : Bytes → List Json → Bytes → Prop where
  | nil (input : Bytes) : Takes limit input [] input
  | cons {input rest left : Bytes} {m : Json} {ms : List Json}
      (hread : read input limit = .message m rest) (hrest : Takes limit rest ms left) :
      Takes limit input (m :: ms) left

/-- The messages of a stream. -/
def messages (input : Bytes) (limit : Nat := capacity) : List Json :=
  (readAll input limit).1.map Prod.fst

/-- The next call comes to the end, of this kind. -/
def EndsWith (limit : Nat) (left : Bytes) : Ending → Prop
  | .finished => read left limit = .finished
  | .refused refusal => ∃ rest, read left limit = .refused refusal rest

section Takes

variable {limit : Nat} {input left : Bytes} {ms : List Json}

theorem readsTo_of_read {outcome : Outcome} (h : read input limit = outcome) :
    ReadsTo limit input outcome :=
  h ▸ readsTo_read input limit

theorem Takes.trans {middle : Bytes} {ns : List Json} (h : Takes limit input ms middle)
    (h' : Takes limit middle ns left) : Takes limit input (ms ++ ns) left := by
  induction h with
  | nil => exact h'
  | cons hread _ ih => exact .cons hread (ih h')

theorem Takes.append (h : Takes limit input ms left) (more : Bytes) :
    Takes limit (input ++ more) ms (left ++ more) := by
  induction h with
  | nil => exact .nil _
  | cons hread _ ih =>
      exact .cons ((readsTo_of_read hread).append trivial more).eq ih

theorem Takes.length_le (h : Takes limit input ms left) : ms.length + left.length ≤ input.length := by
  induction h with
  | nil => simp
  | cons hread _ ih =>
      have hless := (readsTo_of_read hread).length_lt _ _ rfl
      rw [List.length_cons]
      omega

theorem Takes.refuses_iff (h : Takes limit input ms left) (refusal : Refusal) :
    Refuses limit refusal input ↔ Refuses limit refusal left := by
  induction h with
  | nil => exact Iff.rfl
  | cons hread _ ih => exact ((readsTo_of_read hread).refuses refusal).trans ih

theorem EndsWith.eq_refused_iff {ending : Ending} (h : EndsWith limit left ending)
    (refusal : Refusal) : ending = .refused refusal ↔ Refuses limit refusal left := by
  cases ending with
  | finished => exact iff_of_false nofun ((readsTo_of_read h).refuses refusal)
  | refused refusal' =>
      obtain ⟨rest, hread⟩ := h
      have hiff := (readsTo_of_read hread).refuses refusal
      rw [Ending.refused.injEq]
      exact hiff.symm

/-- Messages up to the end are all there are. -/
theorem Takes.unique {ending ending' : Ending} {left' : Bytes} {ms' : List Json}
    (h : Takes limit input ms left) (hend : EndsWith limit left ending)
    (h' : Takes limit input ms' left') (hend' : EndsWith limit left' ending') :
    ms = ms' ∧ ending = ending' := by
  have hnone : ∀ {left : Bytes} {ending : Ending} {m : Json} {rest : Bytes},
      EndsWith limit left ending → read left limit ≠ .message m rest := by
    intro left ending m rest hend hread
    cases ending with
    | finished => rw [EndsWith, hread] at hend; cases hend
    | refused =>
        obtain ⟨rest', hend⟩ := hend
        rw [hread] at hend
        cases hend
  induction h generalizing ms' with
  | nil input =>
      cases h' with
      | nil =>
          have hiff : ∀ refusal, ending = .refused refusal ↔ ending' = .refused refusal :=
            fun refusal => (hend.eq_refused_iff refusal).trans (hend'.eq_refused_iff refusal).symm
          refine ⟨rfl, ?_⟩
          cases ending with
          | refused refusal => exact ((hiff refusal).1 rfl).symm
          | finished =>
              cases ending' with
              | finished => rfl
              | refused refusal => exact (hiff refusal).2 rfl
      | cons hread => exact absurd hread (hnone hend)
  | cons hread _ ih =>
      cases h' with
      | nil => exact absurd hread (hnone hend')
      | cons hread' hrest' =>
          rw [hread] at hread'
          cases hread'
          obtain ⟨rfl, hending⟩ := ih hend hrest'
          exact ⟨rfl, hending⟩

theorem takes_readAllWith {total fuel : Nat} (h : input.length < fuel) :
    ∃ left, Takes limit input ((readAllWith limit total fuel input).1.map Prod.fst) left ∧
      EndsWith limit left (readAllWith limit total fuel input).2 := by
  induction fuel generalizing input with
  | zero => omega
  | succ fuel ih =>
      rw [readAllWith]
      split
      next hread => exact ⟨input, .nil _, hread⟩
      next refusal rest hread => exact ⟨input, .nil _, rest, hread⟩
      next m rest hread =>
        have hless : rest.length < fuel :=
          Nat.lt_of_lt_of_le ((readsTo_of_read hread).length_lt _ _ rfl) (Nat.le_of_lt_succ h)
        obtain ⟨left, htakes, hend⟩ := ih hless
        exact ⟨left, .cons hread htakes, hend⟩

end Takes

/-- Whatever an input holds, as many calls as it has octets, and one more, come to its end or break
off. -/
theorem takes_messages (input : Bytes) (limit : Nat) : ∃ left,
    Takes limit input (messages input limit) left ∧ EndsWith limit left (readAll input limit).2 :=
  takes_readAllWith (Nat.lt_succ_self _)

/-- Reading breaks off if and only if a block that is come to gives too large a length. -/
theorem ending_eq_refused_iff (input : Bytes) (limit : Nat) (refusal : Refusal) :
    (readAll input limit).2 = .refused refusal ↔ Refuses limit refusal input := by
  obtain ⟨left, htakes, hend⟩ := takes_messages input limit
  exact (hend.eq_refused_iff refusal).trans (htakes.refuses_iff refusal).symm

end LookupBench.Frame
