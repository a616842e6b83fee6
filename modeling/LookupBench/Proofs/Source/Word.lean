import LookupBench.Proofs.Source.Occurrence

/-!
# Words of a source

A source with errors is read word by word. What its lines give are their whole words, as far as
these could be names: a pattern that gives characters back when no word ends behind them never ends
inside a word, and none starts inside one. So the occurrences are the runs of word characters that
consist of ASCII letters, digits and underscores, in the order in which they stand.
-/

namespace LookupBench

/-! ### The pattern of names -/

theorem isWordChar_of_isAsciiWord {c : Char} (h : isAsciiWord c = true) : isWordChar c = true := by
  have hbasic : c.toNat < 0x80 := by
    simp only [isAsciiWord, isAsciiLetter, isAsciiDigit, Bool.or_eq_true, Bool.and_eq_true,
      decide_eq_true_eq] at h
    have hval : ∀ {d : Char}, c ≤ d → c.toNat ≤ d.toNat := fun hle => hle
    rcases h with ((⟨-, hle⟩ | ⟨-, hle⟩) | ⟨-, hle⟩) | rfl
    · exact (hval hle).trans_lt (by decide)
    · exact (hval hle).trans_lt (by decide)
    · exact (hval hle).trans_lt (by decide)
    · decide
  rw [isWordChar, if_pos hbasic]
  exact h

theorem isAsciiWord_iff {c : Char} :
    isAsciiWord c = true ↔ (isAsciiLetter c || c = '_') = true ∨ isAsciiDigit c = true := by
  simp only [isAsciiWord, Bool.or_eq_true, decide_eq_true_eq]
  tauto

/-- A letter is no digit. -/
theorem isAsciiDigit_eq_false {c : Char} (h : (isAsciiLetter c || c = '_') = true) :
    isAsciiDigit c = false := by
  simp only [isAsciiLetter, isAsciiDigit, Bool.or_eq_true, Bool.and_eq_true, decide_eq_true_eq,
    Bool.and_eq_false_iff, decide_eq_false_iff_not, Char.le_def, UInt32.le_iff_toNat_le,
    Char.ext_iff, UInt32.ext_iff] at h ⊢
  simp at h ⊢
  omega

theorem isWordAt_eq_false_iff {c : Option Char} :
    isWordAt c = false ↔ ∀ d ∈ c, isWordChar d = false := by
  cases c <;> simp [isWordAt]

theorem isWordAt_some (c : Char) : isWordAt (some c) = isWordChar c := rfl

/-- A word that could be a name. -/
structure IsPlainName (word : List Char) : Prop where
  ne_nil : word ≠ []
  ascii : ∀ c ∈ word, isAsciiWord c = true
  start : ∀ c ∈ word.head?, isAsciiDigit c = false

theorem isPlainName_cons_iff {c : Char} {run : List Char} :
    IsPlainName (c :: run)
      ↔ (isAsciiLetter c || c = '_') = true ∧ ∀ d ∈ run, isAsciiWord d = true := by
  constructor
  · intro h
    refine ⟨?_, fun d hd => h.ascii d (List.mem_cons_of_mem _ hd)⟩
    have hdigit := h.start c rfl
    exact (isAsciiWord_iff.1 (h.ascii c List.mem_cons_self)).resolve_right (by simp [hdigit])
  · rintro ⟨hstart, hrun⟩
    refine ⟨List.cons_ne_nil _ _, ?_, ?_⟩
    · intro d hd
      rcases List.mem_cons.1 hd with rfl | hd
      · exact isAsciiWord_iff.2 (.inl hstart)
      · exact hrun d hd
    · intro d hd
      obtain rfl : c = d := by simpa using hd
      exact isAsciiDigit_eq_false hstart

/-- Inside a word giving back is of no use: no word ends behind fewer characters than there are. -/
theorem matchSize?_many_boundary {accepts : Char → Bool}
    (hword : ∀ c, accepts c = true → isWordChar c = true) {b : Char} (hb : isWordChar b = true)
    (cs : List Char) :
    matchSize? [.many accepts, .boundary] (some b) cs =
      if isWordAt (cs.dropWhile accepts).head? then none else some (cs.takeWhile accepts).length := by
  have hstop : ∀ {b : Char} (cs : List Char), isWordChar b = true →
      matchSize? [.boundary] (some b) cs = if isWordAt cs.head? then none else some 0 := by
    intro b cs hb
    cases hhead : isWordAt cs.head? <;>
      simp [matchSize?, PatternPart.matcher, isWordAt_some, hb, hhead]
  induction cs generalizing b with
  | nil => exact hstop [] hb
  | cons c rest ih =>
      have hstep : matchSize? [.many accepts, .boundary] (some b) (c :: rest) =
          if accepts c then
            ((matchSize? [.many accepts, .boundary] (some c) rest).map (· + 1)).orElse
              fun _ => matchSize? [.boundary] (some b) (c :: rest)
          else matchSize? [.boundary] (some b) (c :: rest) := rfl
      rw [hstep, hstop _ hb]
      by_cases hc : accepts c = true
      · have hinside : isWordAt (c :: rest).head? = true := hword c hc
        rw [if_pos hc, if_pos hinside, ih (hword c hc), List.dropWhile_cons_of_pos hc,
          List.takeWhile_cons_of_pos hc]
        split <;> rfl
      · rw [if_neg hc, List.dropWhile_cons_of_neg hc, List.takeWhile_cons_of_neg hc]
        rfl

theorem takeWhile_ascii {rest : List Char} (h : isWordAt rest.head? = false) {run : List Char}
    (hrun : ∀ c ∈ run, isAsciiWord c = true) :
    (run ++ rest).takeWhile isAsciiWord = run ∧ (run ++ rest).dropWhile isAsciiWord = rest := by
  have hrest : ¬ ∃ c ∈ rest.head?, isAsciiWord c = true := by
    rintro ⟨c, hc, hascii⟩
    have hout := isWordAt_eq_false_iff.1 h c hc
    rw [isWordChar_of_isAsciiWord hascii] at hout
    cases hout
  rw [List.takeWhile_append_of_pos hrun, List.dropWhile_append_of_pos hrun]
  cases rest with
  | nil => simp
  | cons c rest =>
      have hc : ¬ isAsciiWord c = true := fun hascii => hrest ⟨c, rfl, hascii⟩
      simp [List.takeWhile_cons_of_neg hc, List.dropWhile_cons_of_neg hc]

namespace Source

/-- The pattern of names matches the words that could be names, and nothing inside a word. -/
theorem matchSize?_namePattern {before : Option Char} {cs : List Char} {n : Nat} :
    matchSize? namePattern before cs = some n ↔
      ∃ word more, cs = word ++ more ∧ word.length = n ∧ IsPlainName word ∧
        isWordAt before = false ∧ isWordAt more.head? = false := by
  cases cs with
  | nil =>
      constructor
      · intro h
        simp [matchSize?, namePattern, PatternPart.matcher] at h
      · rintro ⟨word, more, hcs, -, hword, -⟩
        exact absurd (List.append_eq_nil_iff.1 hcs.symm).1 hword.ne_nil
  | cons c rest =>
      have hstep : matchSize? namePattern before (c :: rest) =
          if isWordAt before != isWordChar c then
            if isAsciiLetter c || c = '_' then
              (matchSize? [.many isAsciiWord, .boundary] (some c) rest).map (· + 1)
            else none
          else none := rfl
      rw [hstep]
      by_cases hstart : (isAsciiLetter c || c = '_') = true
      · have hc : isWordChar c = true :=
          isWordChar_of_isAsciiWord (isAsciiWord_iff.2 (.inl hstart))
        rw [if_pos hstart, hc,
          matchSize?_many_boundary (fun _ => isWordChar_of_isAsciiWord) hc]
        constructor
        · intro h
          obtain ⟨hbefore, hmore, hsize⟩ : isWordAt before = false ∧
              isWordAt (rest.dropWhile isAsciiWord).head? = false ∧
              (rest.takeWhile isAsciiWord).length + 1 = n := by
            cases hbefore : isWordAt before <;>
              cases hmore : isWordAt (rest.dropWhile isAsciiWord).head? <;>
              simp_all
          refine ⟨c :: rest.takeWhile isAsciiWord, rest.dropWhile isAsciiWord, ?_, hsize, ?_,
            hbefore, hmore⟩
          · rw [List.cons_append, List.takeWhile_append_dropWhile]
          · exact isPlainName_cons_iff.2 ⟨hstart, fun d hd => List.mem_takeWhile_imp hd⟩
        · rintro ⟨word, more, hcs, rfl, hword, hbefore, hmore⟩
          cases word with
          | nil => exact absurd rfl hword.ne_nil
          | cons d run =>
              obtain ⟨rfl, rfl⟩ := List.cons.inj hcs
              obtain ⟨-, hrun⟩ := isPlainName_cons_iff.1 hword
              obtain ⟨htake, hdrop⟩ := takeWhile_ascii hmore hrun
              simp [hbefore, htake, hdrop, hmore]
      · rw [if_neg hstart, ite_self]
        constructor
        · intro h
          cases h
        · rintro ⟨word, more, hcs, rfl, hword, -, -⟩
          cases word with
          | nil => exact absurd rfl hword.ne_nil
          | cons d run =>
              obtain ⟨rfl, -⟩ := List.cons.inj hcs
              exact absurd (isPlainName_cons_iff.1 hword).1 hstart

/-! ### Runs of word characters -/

/-- A stretch of a line that is a word: word characters only, and none at its ends. -/
structure IsRun (lead word more : List Char) : Prop where
  ne_nil : word ≠ []
  isWord : ∀ c ∈ word, isWordChar c = true
  before : ∀ c ∈ lead.getLast?, isWordChar c = false
  behind : ∀ c ∈ more.head?, isWordChar c = false

theorem isRun_of_isPlainName {lead word more : List Char} (hword : IsPlainName word)
    (hbefore : isWordAt lead.getLast? = false) (hbehind : isWordAt more.head? = false) :
    IsRun lead word more where
  ne_nil := hword.ne_nil
  isWord c hc := isWordChar_of_isAsciiWord (hword.ascii c hc)
  before := isWordAt_eq_false_iff.1 hbefore
  behind := isWordAt_eq_false_iff.1 hbehind

/-- The pattern matches where a word that could be a name starts, and only there. -/
theorem wordSize_cases (seen cs : List Char) :
    (wordSize seen.getLast? cs = 0 ∧
      ∀ word more, cs = word ++ more → IsPlainName word → ¬ IsRun seen word more) ∨
    ∃ word more, cs = word ++ more ∧ wordSize seen.getLast? cs = word.length ∧ IsPlainName word ∧
      IsRun seen word more ∧
      ∀ word' more', cs = word' ++ more' → IsPlainName word' → IsRun seen word' more' →
        word' = word := by
  have hmatch : ∀ word more, cs = word ++ more → IsPlainName word → IsRun seen word more →
      matchSize? namePattern seen.getLast? cs = some word.length := by
    intro word more hcs hword hrun
    exact matchSize?_namePattern.2 ⟨word, more, hcs, rfl, hword,
      isWordAt_eq_false_iff.2 hrun.before, isWordAt_eq_false_iff.2 hrun.behind⟩
  cases hsize : matchSize? namePattern seen.getLast? cs with
  | none =>
      refine .inl ⟨by rw [wordSize, hsize]; rfl, fun word more hcs hword hrun => ?_⟩
      have := hmatch word more hcs hword hrun
      simp_all
  | some n =>
      obtain ⟨word, more, hcs, hn, hword, hbefore, hbehind⟩ := matchSize?_namePattern.1 hsize
      refine .inr ⟨word, more, hcs, by rw [wordSize, hsize, hn]; rfl, hword,
        isRun_of_isPlainName hword hbefore hbehind, fun word' more' hcs' hword' hrun' => ?_⟩
      have hlength : word'.length = word.length := by
        have := hmatch word' more' hcs' hword' hrun'
        simp_all
      exact (List.append_inj (hcs'.symm.trans hcs) hlength).1

/-- The words of what is left of a line are those that could be names; behind a word that was
taken, `skip` characters of it are still to be passed. -/
theorem mem_wordsOf_iff {seen cs : List Char} {skip place : Nat} {word : List Char}
    (hskip : ∀ c ∈ cs.take skip, isWordChar c = true)
    (hseen : 0 < skip → isWordAt seen.getLast? = true) :
    (place, word) ∈ wordsOf seen.getLast? (Utf8.encodeChars seen).length skip cs ↔
      ∃ passed more, cs = passed ++ (word ++ more) ∧ IsRun (seen ++ passed) word more ∧
        IsPlainName word ∧ place = (Utf8.encodeChars (seen ++ passed)).length := by
  induction cs generalizing seen skip with
  | nil =>
      simp only [wordsOf, List.not_mem_nil, false_iff]
      rintro ⟨passed, more, hcs, hrun, -⟩
      simp_all [hrun.ne_nil]
  | cons c rest ih =>
      -- a word starts at the first character or behind it
      have hcases : (∃ passed more, c :: rest = passed ++ (word ++ more) ∧
            IsRun (seen ++ passed) word more ∧ IsPlainName word ∧
            place = (Utf8.encodeChars (seen ++ passed)).length) ↔
          (∃ more, c :: rest = word ++ more ∧ IsRun seen word more ∧ IsPlainName word ∧
            place = (Utf8.encodeChars seen).length) ∨
          ∃ passed more, rest = passed ++ (word ++ more) ∧
            IsRun ((seen ++ [c]) ++ passed) word more ∧ IsPlainName word ∧
            place = (Utf8.encodeChars ((seen ++ [c]) ++ passed)).length := by
        constructor
        · rintro ⟨passed, more, hcs, h⟩
          cases passed with
          | nil => exact .inl ⟨more, hcs, by simpa using h⟩
          | cons d passed =>
              obtain ⟨rfl, hrest⟩ := List.cons.inj hcs
              exact .inr ⟨passed, more, hrest, by simpa using h⟩
        · rintro (⟨more, hcs, h⟩ | ⟨passed, more, hrest, h⟩)
          · exact ⟨[], more, hcs, by simpa using h⟩
          · exact ⟨c :: passed, more, by rw [hrest, List.cons_append], by simpa using h⟩
      -- what is found behind the first character is found with that character seen
      have hlater : ∀ skip, (∀ d ∈ rest.take skip, isWordChar d = true) →
          (0 < skip → isWordChar c = true) →
          ((place, word) ∈ wordsOf (some c)
              ((Utf8.encodeChars seen).length + (Utf8.encodeChar c).length) skip rest ↔
            ∃ passed more, rest = passed ++ (word ++ more) ∧
              IsRun ((seen ++ [c]) ++ passed) word more ∧ IsPlainName word ∧
              place = (Utf8.encodeChars ((seen ++ [c]) ++ passed)).length) := by
        intro skip hrest hc
        have hlast : 0 < skip → isWordAt (seen ++ [c]).getLast? = true := by
          simpa [isWordAt_some] using hc
        have hfound := ih hrest hlast
        rw [List.getLast?_concat, Utf8.encodeChars_append, List.length_append] at hfound
        simpa [Utf8.encodeChars] using hfound
      rw [hcases]
      cases skip with
      | succ skip =>
          have hc : isWordChar c = true := hskip c (by simp)
          rw [wordsOf, hlater skip (fun d hd => hskip d (by simp [hd])) fun _ => hc]
          refine ⟨.inr, fun h => h.resolve_left ?_⟩
          rintro ⟨more, -, hrun, -⟩
          rw [isWordAt_eq_false_iff.2 hrun.before] at hseen
          cases hseen (Nat.succ_pos skip)
      | zero =>
          rw [wordsOf]
          rcases wordSize_cases seen (c :: rest) with
            ⟨hsize, hnone⟩ | ⟨found, behind, hcs, hsize, hname, hrun, hunique⟩
          · rw [hsize, if_pos rfl, hlater 0 (by simp) (by simp)]
            refine ⟨.inr, fun h => h.resolve_left ?_⟩
            rintro ⟨more, hcs, hrun, hname, -⟩
            exact hnone word more hcs hname hrun
          · obtain ⟨tail, rfl, hrest⟩ : ∃ tail, found = c :: tail ∧ rest = tail ++ behind := by
              cases found with
              | nil => exact absurd rfl hname.ne_nil
              | cons d tail =>
                  obtain ⟨rfl, hrest⟩ := List.cons.inj hcs
                  exact ⟨tail, rfl, hrest⟩
            have htail : ∀ d ∈ rest.take tail.length, isWordChar d = true := by
              intro d hd
              rw [hrest, List.take_left] at hd
              exact hrun.isWord d (List.mem_cons_of_mem _ hd)
            have hhere : (place, word) = ((Utf8.encodeChars seen).length, c :: tail) ↔
                ∃ more, c :: rest = word ++ more ∧ IsRun seen word more ∧ IsPlainName word ∧
                  place = (Utf8.encodeChars seen).length := by
              constructor
              · intro h
                obtain ⟨rfl, rfl⟩ := Prod.mk.inj h
                exact ⟨behind, hcs, hrun, hname, rfl⟩
              · rintro ⟨more, hcs', hrun', hname', rfl⟩
                rw [hunique word more hcs' hname' hrun']
            rw [hsize, if_neg (by simp), List.mem_cons, hcs, List.take_left, List.length_cons,
              Nat.add_sub_cancel, hlater tail.length htail fun _ => hrun.isWord c (by simp), hhere,
              hcs]

/-! ### Order -/

theorem octets_lt_of_mem_wordsOf {before : Option Char} {octets skip : Nat} {cs : List Char} :
    (∀ found ∈ wordsOf before octets skip cs, octets ≤ found.1) ∧
      (wordsOf before octets skip cs).Pairwise fun first second => first.1 < second.1 := by
  induction cs generalizing before octets skip with
  | nil => simp [wordsOf]
  | cons c rest ih =>
      have hpos := Utf8.length_encodeChar_pos c
      have hlater : ∀ skip,
          ∀ found ∈ wordsOf (some c) (octets + (Utf8.encodeChar c).length) skip rest,
            octets < found.1 := by
        intro skip found hfound
        have := ih.1 found hfound
        omega
      cases skip with
      | succ skip =>
          rw [wordsOf]
          exact ⟨fun found hfound => (hlater skip found hfound).le, ih.2⟩
      | zero =>
          rw [wordsOf]
          split
          · exact ⟨fun found hfound => (hlater _ found hfound).le, ih.2⟩
          · refine ⟨fun found hfound => ?_, List.pairwise_cons.2 ⟨hlater _, ih.2⟩⟩
            rcases List.mem_cons.1 hfound with rfl | hfound
            · exact le_rfl
            · exact (hlater _ found hfound).le

end Source

/-- What is farther to the right in octets is so in units. -/
theorem utf16Length_lt {lead lead' line : List Char} (h : lead <+: line) (h' : lead' <+: line)
    (hlt : (Utf8.encodeChars lead).length < (Utf8.encodeChars lead').length) :
    utf16Length lead < utf16Length lead' := by
  rcases List.prefix_or_prefix_of_prefix h h' with ⟨between, rfl⟩ | ⟨between, rfl⟩
  · have hne : between ≠ [] := by
      rintro rfl
      simp at hlt
    have := utf16Length_pos hne
    rw [utf16Length_append]
    omega
  · rw [Utf8.encodeChars_append, List.length_append] at hlt
    omega

/-- One occurrence stands in front of another: in an earlier line, or farther to the left. -/
def Occurrence.Precedes (o p : Occurrence) : Prop :=
  o.line < p.line ∨ o.line = p.line ∧ o.column < p.column

namespace Source

/-- A word of a line that is an occurrence, behind what stands to the left of it. -/
structure IsLineWord (line lead word : List Char) : Prop where
  run : ∃ more, line = lead ++ (word ++ more) ∧ IsRun lead word more
  name : IsPlainName word
  worthwhile : isExcluded (String.ofList word) = false

theorem mem_words_iff {line word : List Char} {place : Nat} :
    (place, word) ∈ wordsOf none 0 0 line ↔
      ∃ lead more, line = lead ++ (word ++ more) ∧ IsRun lead word more ∧ IsPlainName word ∧
        place = (Utf8.encodeChars lead).length := by
  have hfound := @mem_wordsOf_iff [] line 0 place word (by simp) (by simp)
  exact hfound

theorem mem_lineWords_iff {number : Nat} {line : List Char} {o : Occurrence} :
    o ∈ lineWords number line ↔ ∃ lead word, IsLineWord line lead word ∧
      o = ⟨number, (utf16 lead).length, String.ofList word, .regex⟩ := by
  simp only [lineWords, List.mem_filterMap, Prod.exists]
  constructor
  · rintro ⟨place, word, hmem, hsome⟩
    obtain ⟨lead, more, rfl, hrun, hname, rfl⟩ := mem_words_iff.1 hmem
    split at hsome
    · cases hsome
    next hkept =>
      refine ⟨lead, word, ⟨⟨more, rfl, hrun⟩, hname, by simpa using hkept⟩, ?_⟩
      rw [utf16Column_append] at hsome
      rw [length_utf16]
      exact (Option.some.inj hsome).symm
  · rintro ⟨lead, word, ⟨⟨more, rfl, hrun⟩, hname, hkept⟩, rfl⟩
    refine ⟨_, word, mem_words_iff.2 ⟨lead, more, rfl, hrun, hname, rfl⟩, ?_⟩
    rw [hkept, utf16Column_append, length_utf16]
    rfl

theorem pairwise_lineWords (number : Nat) (line : List Char) :
    (lineWords number line).Pairwise Occurrence.Precedes := by
  have hplaces : (wordsOf none 0 0 line).Pairwise fun first second => first.1 < second.1 :=
    octets_lt_of_mem_wordsOf.2
  apply (List.Pairwise.and_mem.1 hplaces).filterMap
  rintro ⟨place, word⟩ ⟨place', word'⟩ ⟨hmem, hmem', hlt⟩ o ho o' ho'
  obtain ⟨lead, more, hline, -, -, rfl⟩ := mem_words_iff.1 hmem
  obtain ⟨lead', more', hline', -, -, rfl⟩ := mem_words_iff.1 hmem'
  -- the column of what is found behind a part of the line is the number of its units
  have hcolumn : ∀ {lead word more : List Char} {o : Occurrence}, line = lead ++ (word ++ more) →
      (if isExcluded (String.ofList word) then none
        else some (⟨number, utf16Column line (Utf8.encodeChars lead).length, String.ofList word,
          .regex⟩ : Occurrence)) = some o →
      o.line = number ∧ o.column = utf16Length lead := by
    intro lead word more o hline ho
    split at ho
    · cases ho
    · obtain rfl := Option.some.inj ho
      exact ⟨rfl, by rw [hline, utf16Column_append]⟩
  obtain ⟨hnumber, hcol⟩ := hcolumn hline ho
  obtain ⟨hnumber', hcol'⟩ := hcolumn hline' ho'
  refine .inr ⟨by rw [hnumber, hnumber'], ?_⟩
  rw [hcol, hcol']
  exact utf16Length_lt ⟨_, hline.symm⟩ ⟨_, hline'.symm⟩ hlt

theorem mem_wordOccurrencesFrom_iff {number : Nat} {lines : List (List Char)} {o : Occurrence} :
    o ∈ wordOccurrencesFrom number lines ↔
      ∃ i line, lines[i]? = some line ∧ o ∈ lineWords (number + i) line := by
  refine ⟨exists_line_of_mem_wordOccurrencesFrom, ?_⟩
  rintro ⟨i, line, hline, ho⟩
  induction lines generalizing number i with
  | nil => simp at hline
  | cons first lines ih =>
      rw [wordOccurrencesFrom, List.mem_append]
      cases i with
      | zero =>
          obtain rfl : first = line := by simpa using hline
          exact .inl ho
      | succ i =>
          refine .inr (ih i (by simpa using hline) ?_)
          rwa [Nat.add_right_comm]

theorem pairwise_wordOccurrencesFrom (number : Nat) (lines : List (List Char)) :
    (wordOccurrencesFrom number lines).Pairwise Occurrence.Precedes := by
  induction lines generalizing number with
  | nil => exact List.Pairwise.nil
  | cons line lines ih =>
      refine List.pairwise_append.2 ⟨pairwise_lineWords number line, ih (number + 1), ?_⟩
      intro o ho p hp
      obtain ⟨i, line', -, hp⟩ := mem_wordOccurrencesFrom_iff.1 hp
      have hfirst := (found_of_mem_lineWords ho).1
      have hlater := (found_of_mem_lineWords hp).1
      left
      omega

/-- The words of a source are those of its lines that could be names, line by line and from left to
right. -/
theorem wordOccurrences_exact (src : List Char) :
    (wordOccurrences src).Pairwise Occurrence.Precedes ∧
      ∀ o, o ∈ wordOccurrences src ↔ ∃ i line lead word, (linesOf src)[i]? = some line ∧
        IsLineWord line lead word ∧
        o = ⟨i + 1, (utf16 lead).length, String.ofList word, .regex⟩ := by
  refine ⟨pairwise_wordOccurrencesFrom 1 _, fun o => ?_⟩
  simp only [wordOccurrences, mem_wordOccurrencesFrom_iff, mem_lineWords_iff, Nat.add_comm 1]
  constructor
  · rintro ⟨i, line, hline, lead, word, hword, rfl⟩
    exact ⟨i, line, lead, word, hline, hword, rfl⟩
  · rintro ⟨i, line, lead, word, hline, hword, rfl⟩
    exact ⟨i, line, hline, lead, word, hword, rfl⟩

/-- Neither digits in front of a word nor a letter or a mark beside it leave a part of it. -/
example : wordOccurrences "1ab éab ab\u0301 a_1 self\nab".toList =
    [⟨1, 12, "a_1", .regex⟩, ⟨2, 0, "ab", .regex⟩] := by
  decide +kernel

end Source

end LookupBench
