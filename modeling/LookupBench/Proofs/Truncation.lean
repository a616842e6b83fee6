import LookupBench.Proofs.Stream

/-!
# Streams that are cut

A stream may be cut anywhere: in a header, in a blank line, in a body. What is read of the piece in
front is what is read of the whole, as far as it ends there. A line that the cut leaves open is taken
for a whole one, and so the rest of a block may come to look like a block of its own; but then nothing
is left for a body, and nothing is no message.
-/

namespace LookupBench.Frame

variable {limit : Nat} {input more rest : Bytes}

/-! ### One message -/

/-- The first line of a whole that was cut ends in the piece in front, or behind the cut. -/
theorem ended_or_splitLine_length_lt (input : Bytes) (hmore : more ≠ []) :
    Ended input (splitLine input).2 ∨ (splitLine (input ++ more)).2.length < more.length := by
  induction input with
  | nil => exact .inr (splitLine_length_lt hmore)
  | cons b input ih =>
      by_cases hb : b = 10
      · subst hb
        rw [splitLine_newline]
        cases input with
        | nil => exact .inl (.inr rfl)
        | cons d input => exact .inl (.inl (List.cons_ne_nil d input))
      · rw [List.cons_append, splitLine_cons_of_ne hb, splitLine_cons_of_ne hb]
        refine ih.imp_left fun hended => hended.imp_right fun hlast => ?_
        cases input with
        | nil => cases hlast
        | cons d input => rwa [List.getLast?_cons_cons]

/-- A header that is over before the cut is the same without what is behind it. -/
theorem head_of_append {inside : Bool} {length l : Option Nat} {rest' : Bytes}
    (h : head inside length (input ++ more) = some (l, rest')) (hcut : more.length ≤ rest'.length) :
    ∃ rest, rest' = rest ++ more ∧ head inside length input = some (l, rest) := by
  by_cases hmore : more = []
  · subst hmore
    rw [List.append_nil] at h
    exact ⟨rest', (List.append_nil rest').symm, h⟩
  induction input using byLines generalizing inside length with
  | nil => exact absurd (head_length_lt h) (Nat.not_lt_of_le hcut)
  | line input hinput ih =>
      rw [head_eq (List.append_ne_nil_of_left_ne_nil hinput more)] at h
      rcases ended_or_splitLine_length_lt input hmore with hended | hbehind
      · have hsplit := splitLine_append_of_ended hended more
        have hfirst : firstLine (input ++ more) = firstLine input := by
          rw [firstLine, hsplit, firstLine]
        rw [hfirst, hsplit] at h
        rw [head_eq hinput]
        split at h
        next hblank =>
          rw [if_pos hblank]
          split at h
          next hinside =>
            cases h
            exact ⟨_, rfl, if_pos hinside⟩
          next hinside =>
            rw [if_neg hinside]
            exact ih h
        next hblank =>
          rw [if_neg hblank]
          exact ih h
      · -- the first line takes some of what is behind the cut, and the header no less
        exfalso
        split at h
        · split at h
          · cases h
            omega
          · have := head_length_lt h
            omega
        · have := head_length_lt h
          omega

/-- A message that ends before the cut is read without what is behind it. -/
theorem ReadsTo.of_append {whole : Bytes} {outcome : Outcome} (h : ReadsTo limit whole outcome) :
    ∀ input m rest', whole = input ++ more → outcome = .message m rest' →
      more.length ≤ rest'.length →
        ∃ rest, rest' = rest ++ more ∧ ReadsTo limit input (.message m rest) := by
  induction h with
  | ended | truncated | refused => rintro input m rest' - ⟨⟩
  | @message whole r n m hhead hfits hthere hbody =>
      rintro input m' rest' rfl ⟨⟩ hcut
      rw [List.length_drop] at hcut
      obtain ⟨r, rfl, hhead'⟩ := head_of_append hhead (Nat.le_trans hcut (Nat.sub_le _ _))
      rw [List.length_append] at hcut hthere
      have hthere' : n ≤ r.length := by omega
      rw [List.take_append_of_le_length hthere'] at hbody
      exact ⟨r.drop n, List.drop_append_of_le_length hthere',
        .message hhead' hfits hthere' hbody⟩
  | @noLength whole r outcome hhead hrest ih =>
      rintro input m rest' rfl rfl hcut
      have hless := hrest.length_lt _ _ rfl
      obtain ⟨r, rfl, hhead'⟩ := head_of_append hhead (by omega)
      obtain ⟨rest, heq, hread⟩ := ih r m rest' rfl rfl hcut
      exact ⟨rest, heq, .noLength hhead' hread⟩
  | @noJson whole r n outcome hhead hfits hthere hbody hrest ih =>
      rintro input m rest' rfl rfl hcut
      have hless := hrest.length_lt _ _ rfl
      rw [List.length_drop] at hless
      obtain ⟨r, rfl, hhead'⟩ := head_of_append hhead (by omega)
      rw [List.length_append] at hless
      have hthere' : n ≤ r.length := by omega
      rw [List.take_append_of_le_length hthere'] at hbody
      obtain ⟨rest, heq, hread⟩ :=
        ih (r.drop n) m rest' (List.drop_append_of_le_length hthere') rfl hcut
      exact ⟨rest, heq, .noJson hhead' hfits hthere' hbody hread⟩

/-- A message that is there only with more input behind it ends in what was added. -/
theorem length_lt_of_read_append {m : Json} (h : read (input ++ more) limit = .message m rest)
    (hnone : ∀ m rest, read input limit ≠ .message m rest) : rest.length < more.length := by
  by_contra hcut
  obtain ⟨rest', -, hread⟩ :=
    (readsTo_of_read h).of_append input m rest rfl rfl (Nat.le_of_not_lt hcut)
  exact hnone m rest' hread.eq

/-! ### All messages -/

/-- Each message ends behind the one in front of it, and none behind the input. `total` counts the
octets from the start of the stream to the end of the input. -/
theorem offsets_readAllWith {total : Nat} (fuel : Nat) (h : input.length ≤ total) :
    (∀ e ∈ (readAllWith limit total fuel input).1, total - input.length < e.2 ∧ e.2 ≤ total) ∧
      ((readAllWith limit total fuel input).1.map Prod.snd).Pairwise (· < ·) := by
  induction fuel generalizing input with
  | zero => exact ⟨List.forall_mem_nil _, .nil⟩
  | succ fuel ih =>
      rw [readAllWith]
      split
      next => exact ⟨List.forall_mem_nil _, .nil⟩
      next => exact ⟨List.forall_mem_nil _, .nil⟩
      next m rest hread =>
        have hless := (readsTo_of_read hread).length_lt _ _ rfl
        obtain ⟨hbounds, hsorted⟩ := ih (Nat.le_trans (Nat.le_of_lt hless) h)
        refine ⟨List.forall_mem_cons.2 ⟨by dsimp only; omega, fun e he => ?_⟩, ?_⟩
        · have := hbounds e he
          omega
        · refine List.pairwise_cons.2 ⟨fun offset hoffset => ?_, hsorted⟩
          obtain ⟨e, he, rfl⟩ := List.mem_map.1 hoffset
          exact (hbounds e he).1

/-- With more input behind it, the same messages are read first, and those that follow end behind
the input. -/
theorem exists_readAllWith_append {total fuel fuel' : Nat} (htotal : input.length ≤ total)
    (hfuel : input.length < fuel) (hfuel' : (input ++ more).length < fuel') :
    ∃ later, (readAllWith limit (total + more.length) fuel' (input ++ more)).1
        = (readAllWith limit total fuel input).1 ++ later ∧ ∀ e ∈ later, total < e.2 := by
  induction fuel generalizing input fuel' with
  | zero => omega
  | succ fuel ih =>
      obtain ⟨fuel', rfl⟩ := Nat.exists_eq_succ_of_ne_zero (Nat.ne_zero_of_lt hfuel')
      -- no message is whole in the input, so the first one that is read takes some of what follows
      have hbehind : (∀ m rest, read input limit ≠ .message m rest) →
          ∀ e ∈ (readAllWith limit (total + more.length) (fuel' + 1) (input ++ more)).1,
            total < e.2 := by
        intro hnone e he
        rw [readAllWith] at he
        split at he
        next => cases he
        next => cases he
        next m rest hread =>
          have hless := length_lt_of_read_append hread hnone
          rcases List.mem_cons.1 he with rfl | he
          · dsimp only
            omega
          · have hfits : rest.length ≤ total + more.length := by omega
            have := (offsets_readAllWith fuel' hfits).1 e he
            omega
      cases hread : read input limit with
      | finished =>
          refine ⟨_, ?_, hbehind fun m rest h => by rw [hread] at h; cases h⟩
          conv_rhs => rw [readAllWith, hread]
          rfl
      | refused refusal rest =>
          refine ⟨_, ?_, hbehind fun m rest h => by rw [hread] at h; cases h⟩
          conv_rhs => rw [readAllWith, hread]
          rfl
      | message m rest =>
          have hless := (readsTo_of_read hread).length_lt _ _ rfl
          have hmore : read (input ++ more) limit = .message m (rest ++ more) :=
            ((readsTo_of_read hread).append trivial more).eq
          have hoffset : total + more.length - (rest ++ more).length = total - rest.length := by
            rw [List.length_append, Nat.add_sub_add_right]
          have hlonger : (rest ++ more).length < fuel' := by
            rw [List.length_append] at hfuel' ⊢
            omega
          obtain ⟨later, hlater, hbounds⟩ :=
            ih (Nat.le_trans (Nat.le_of_lt hless) htotal) (by omega) hlonger
          refine ⟨later, ?_, hbounds⟩
          rw [readAllWith, hmore, readAllWith, hread]
          dsimp only
          rw [hlater, hoffset]
          rfl

/-- Cutting a stream takes messages away at the end, and neither changes one nor makes one up: the
messages of a piece in front, with the offsets behind them, are those messages of the whole that end
in it, and the whole has them first. Offsets go up, and none lies behind the end. -/
theorem readAll_cut (limit : Nat) (input more : Bytes) :
    (readAll input limit).1 <+: (readAll (input ++ more) limit).1 ∧
      (readAll input limit).1
        = (readAll (input ++ more) limit).1.filter (·.2 ≤ input.length) ∧
      ((readAll input limit).1.map Prod.snd).Pairwise (· < ·) ∧
      (∀ e ∈ (readAll input limit).1, 0 < e.2 ∧ e.2 ≤ input.length) ∧
      ∀ n, (readAll (input.take n) limit).1 = (readAll input limit).1.filter (·.2 ≤ n) := by
  have hoffsets : ∀ input : Bytes, ∀ e ∈ (readAll input limit).1, 0 < e.2 ∧ e.2 ≤ input.length :=
    fun input e he => by
      simpa using (offsets_readAllWith (input.length + 1) (Nat.le_refl input.length)).1 e he
  have happend : ∀ input more : Bytes, ∃ later,
      (readAll (input ++ more) limit).1 = (readAll input limit).1 ++ later ∧
        ∀ e ∈ later, input.length < e.2 := by
    intro input more
    rw [readAll, List.length_append]
    exact exists_readAllWith_append (Nat.le_refl input.length) (Nat.lt_succ_self _)
      (by rw [List.length_append]; exact Nat.lt_succ_self _)
  have hfilter : ∀ input more : Bytes,
      (readAll input limit).1
        = (readAll (input ++ more) limit).1.filter (·.2 ≤ input.length) := by
    intro input more
    obtain ⟨later, hlater, hbehind⟩ := happend input more
    have hfront : (readAll input limit).1.filter (·.2 ≤ input.length) = (readAll input limit).1 :=
      List.filter_eq_self.2 fun e he => decide_eq_true (hoffsets input e he).2
    have hnone : later.filter (·.2 ≤ input.length) = [] :=
      List.filter_eq_nil_iff.2 fun e he => by simpa using hbehind e he
    rw [hlater, List.filter_append, hfront, hnone, List.append_nil]
  refine ⟨?_, hfilter input more, ?_, hoffsets input, fun n => ?_⟩
  · obtain ⟨later, hlater, -⟩ := happend input more
    exact ⟨later, hlater.symm⟩
  · exact (offsets_readAllWith (input.length + 1) (Nat.le_refl input.length)).2
  · have hcut := hfilter (input.take n) (input.drop n)
    rw [List.take_append_drop, List.length_take] at hcut
    rw [hcut]
    refine List.filter_congr fun e he => ?_
    have := (hoffsets input e he).2
    simp only [decide_eq_decide]
    omega

end LookupBench.Frame
