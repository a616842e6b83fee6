import LookupBench.Proofs.Text.Line
import LookupBench.Source.Occurrence

/-!
# Where occurrences stand

An occurrence gives a line and a column. Whether it was found in a tree or as a word of a line, the
text has that line, and the units of the token begin at that column of it. What makes this so for a
tree is that each of its identifiers is a place where the source has a name, and that no name has a
line break in it.
-/

namespace LookupBench

/-- The token of an occurrence stands in a text where the occurrence says. -/
structure Occurrence.StandsIn (o : Occurrence) (text : List Char) : Prop where
  line_pos : 1 ≤ o.line
  token_ne : o.token ≠ ""
  found : ∃ line, (linesOf text)[o.line - 1]? = some line ∧
    utf16 o.token.toList <+: (utf16 line).drop o.column

theorem Occurrence.StandsIn.line_le {o : Occurrence} {text : List Char} (h : o.StandsIn text) :
    o.line ≤ (linesOf text).length := by
  obtain ⟨line, hline, -⟩ := h.found
  have hlt := (List.getElem?_eq_some_iff.1 hline).1
  omega

namespace Source

/-! ### Names -/

theorem nameAt_prefix (cs : List Char) : nameAt cs <+: cs := by
  unfold nameAt
  split
  · exact List.prefix_rfl
  · split
    · exact List.cons_prefix_cons.2 ⟨rfl, List.takeWhile_prefix _⟩
    · exact List.nil_prefix

/-- No name goes on into another line. -/
theorem plain_of_mem_nameAt {c : Char} {cs : List Char} (h : c ∈ nameAt cs) :
    c ≠ '\n' ∧ c ≠ '\r' := by
  have hkind : isNameStart c = true ∨ isNameChar c = true := by
    unfold nameAt at h
    split at h
    · cases h
    · split at h
      next hstart =>
        rcases List.mem_cons.1 h with rfl | hmem
        · exact .inl hstart
        · exact .inr (List.mem_takeWhile_imp hmem)
      · cases h
  constructor
  all_goals
    rintro rfl
    exact absurd hkind (by decide)

variable {src : List Char}

namespace Name

/-- The text around a name. -/
theorem exists_source_eq (n : Name src) : ∃ after, src = src.take n.start ++ (n.chars ++ after) := by
  obtain ⟨after, hafter⟩ := nameAt_prefix (src.drop n.start)
  exact ⟨after, by rw [chars, hafter, List.take_append_drop]⟩

theorem exists_line (n : Name src) : ∃ more,
    (linesOf src)[n.row]? = some (lineLead (src.take n.start) ++ (n.chars ++ more)) := by
  obtain ⟨after, hafter⟩ := n.exists_source_eq
  have hline := exists_getElem?_linesOf (src.take n.start) n.stands
    (fun c hmem => plain_of_mem_nameAt hmem) after
  rw [← chars, ← hafter] at hline
  exact hline

theorem column_eq (n : Name src) : n.column = utf16Length (lineLead (src.take n.start)) := by
  obtain ⟨more, hline⟩ := n.exists_line
  rw [column, hline, Option.getD_some]
  exact utf16Column_append _ _

theorem occurrence_standsIn (n : Name src) (kind : OccurrenceKind) :
    (n.occurrence kind).StandsIn src where
  line_pos := Nat.le_add_left 1 n.row
  token_ne h := n.stands (String.ofList_eq_empty_iff.1 h)
  found := by
    obtain ⟨more, hline⟩ := n.exists_line
    refine ⟨_, hline, ?_⟩
    have hunits := utf16_prefix_drop (lineLead (src.take n.start)) n.chars more
    rw [← n.column_eq] at hunits
    simpa [occurrence, text] using hunits

end Name

/-! ### Trees -/

/-- What a spot finds: a name that is used, the last name of an attribute, or that of what is
called. -/
inductive Finds (imports : Imports) (s : Spot src) (n : Name src) : OccurrenceKind → Prop
  | name {role : Role} (hfocus : s.focus = .identifier role n)
      (hused : isReference role s.parent? s.grandparent? = true) :
      Finds imports s n (if imports.names.contains n.text then .importedName else .name)
  | attr {role r : Role} {parts : List (Tree src)} (hfocus : s.focus = .node .attribute role parts)
      (hpart : s.focus.part? .attribute = some (.identifier r n)) :
      Finds imports s n (if imports.isModuleBase s.focus then .importedAttr else .attr)
  | call {role r : Role} {parts : List (Tree src)} (hfocus : s.focus = .node .call role parts)
      (hcallee : s.focus.part? .function = some (.identifier r n)) :
      Finds imports s n (if imports.names.contains n.text then .importedCall else .call)
  | attrCall {role r : Role} {parts : List (Tree src)} {callee : Tree src}
      (hfocus : s.focus = .node .call role parts)
      (hcallee : s.focus.part? .function = some callee) (hkind : callee.kind? = some .attribute)
      (hpart : callee.part? .attribute = some (.identifier r n)) :
      Finds imports s n (if imports.isModuleBase callee then .importedAttrCall else .attrCall)

theorem worthwhile_eq_some_iff {t? : Option (Tree src)} {n : Name src} :
    worthwhile t? = some n ↔
      (∃ role, t? = some (.identifier role n)) ∧ isExcluded n.text = false := by
  cases t? with
  | none => simp [worthwhile]
  | some t =>
      cases t with
      | identifier role m =>
          simp only [worthwhile]
          split
          · constructor
            · simp
            · rintro ⟨⟨role', h⟩, hkept⟩
              cases h
              simp_all
          · constructor
            · intro h
              obtain rfl := Option.some.inj h
              exact ⟨⟨role, rfl⟩, by simp_all⟩
            · rintro ⟨⟨role', h⟩, -⟩
              cases h
              rfl
      | node kind role children => simp [worthwhile]

/-- All that an occurrence can come from. -/
theorem occurrenceOf_eq_some_iff {imports : Imports} {s : Spot src} {o : Occurrence} :
    occurrenceOf imports s = some o ↔
      ∃ n kind, Finds imports s n kind ∧ isExcluded n.text = false ∧ o = n.occurrence kind := by
  constructor
  · intro h
    unfold occurrenceOf at h
    dsimp only at h
    split at h
    next role m hfocus =>
      split at h
      next hused =>
        obtain ⟨n, hn, rfl⟩ := Option.map_eq_some_iff.1 h
        obtain ⟨⟨role', htree⟩, hkept⟩ := worthwhile_eq_some_iff.1 hn
        obtain ⟨rfl, rfl⟩ := Tree.identifier.inj (hfocus.symm.trans (Option.some.inj htree))
        exact ⟨_, _, .name hfocus hused, hkept, rfl⟩
      next => cases h
    next role parts hfocus =>
      obtain ⟨n, hn, rfl⟩ := Option.map_eq_some_iff.1 h
      obtain ⟨⟨r, hpart⟩, hkept⟩ := worthwhile_eq_some_iff.1 hn
      exact ⟨n, _, .attr hfocus hpart, hkept, rfl⟩
    next role parts hfocus =>
      split at h
      next r m hcallee =>
        obtain ⟨n, hn, rfl⟩ := Option.map_eq_some_iff.1 h
        obtain ⟨⟨r', htree⟩, hkept⟩ := worthwhile_eq_some_iff.1 hn
        obtain ⟨rfl, rfl⟩ := Tree.identifier.inj (Option.some.inj htree)
        exact ⟨_, _, .call hfocus hcallee, hkept, rfl⟩
      next r parts' hcallee =>
        obtain ⟨n, hn, rfl⟩ := Option.map_eq_some_iff.1 h
        obtain ⟨⟨r', hpart⟩, hkept⟩ := worthwhile_eq_some_iff.1 hn
        exact ⟨n, _, .attrCall hfocus hcallee rfl hpart, hkept, rfl⟩
      next => cases h
    next => cases h
  · rintro ⟨n, kind, hfinds, hkept, rfl⟩
    have hsome : ∀ {r : Role}, worthwhile (some (.identifier r n)) = some n := fun {r} =>
      worthwhile_eq_some_iff.2 ⟨⟨r, rfl⟩, hkept⟩
    cases hfinds with
    | name hfocus hused =>
        simp only [occurrenceOf, hfocus, hused, hsome]
        rfl
    | attr hfocus hpart =>
        rw [hfocus] at hpart ⊢
        simp only [occurrenceOf, hfocus, hpart, hsome]
        rfl
    | call hfocus hcallee =>
        rw [hfocus] at hcallee
        simp only [occurrenceOf, hfocus, hcallee, hsome]
        rfl
    | @attrCall role r parts callee hfocus hcallee hkind hpart =>
        rw [hfocus] at hcallee
        cases callee with
        | identifier => cases hkind
        | node kind' role' parts' =>
            obtain rfl := Option.some.inj hkind
            simp only [occurrenceOf, hfocus, hcallee, hpart, hsome]
            rfl

theorem standsIn_of_mem_treeOccurrences {t : Tree src} {o : Occurrence}
    (h : o ∈ treeOccurrences t) : o.StandsIn src := by
  obtain ⟨s, -, hs⟩ := List.mem_filterMap.1 h
  obtain ⟨n, kind, -, -, rfl⟩ := occurrenceOf_eq_some_iff.1 hs
  exact n.occurrence_standsIn kind

theorem standsIn_of_mem_syntaxOccurrences {found : List Occurrence} {o : Occurrence}
    (hfound : syntaxOccurrences src = some found) (h : o ∈ found) : o.StandsIn src := by
  obtain ⟨t, -, rfl⟩ := Option.map_eq_some_iff.1 hfound
  exact standsIn_of_mem_treeOccurrences h

/-! ### Words -/

/-- A word of a line stands in it, behind the octets that are counted for it. -/
theorem exists_of_mem_wordsOf {before : Option Char} {octets skip place : Nat} {cs word : List Char}
    (h : (place, word) ∈ wordsOf before octets skip cs) :
    word ≠ [] ∧ ∃ lead more, cs = lead ++ (word ++ more) ∧
      place = octets + (Utf8.encodeChars lead).length := by
  -- what is found behind the first character has that character in front of it
  have hlater : ∀ {c : Char} {rest : List Char} {octets : Nat}, (word ≠ [] ∧ ∃ lead more,
      rest = lead ++ (word ++ more) ∧
        place = octets + (Utf8.encodeChar c).length + (Utf8.encodeChars lead).length) →
      word ≠ [] ∧ ∃ lead more, c :: rest = lead ++ (word ++ more) ∧
        place = octets + (Utf8.encodeChars lead).length := by
    rintro c rest octets ⟨hword, lead, more, rfl, rfl⟩
    refine ⟨hword, c :: lead, more, rfl, ?_⟩
    rw [Utf8.encodeChars, List.length_append, Nat.add_assoc]
  induction cs generalizing before octets skip with
  | nil => simp [wordsOf] at h
  | cons c rest ih =>
      cases skip with
      | succ skip =>
          rw [wordsOf] at h
          exact hlater (ih h)
      | zero =>
          rw [wordsOf] at h
          split at h
          · exact hlater (ih h)
          next hsize =>
            rcases List.mem_cons.1 h with heq | hmem
            · obtain ⟨rfl, rfl⟩ := Prod.mk.inj heq
              exact ⟨by simpa using hsize, [], _, (List.take_append_drop _ _).symm, rfl⟩
            · exact hlater (ih hmem)

theorem found_of_mem_lineWords {number : Nat} {line : List Char} {o : Occurrence}
    (h : o ∈ lineWords number line) :
    o.line = number ∧ o.token ≠ "" ∧ utf16 o.token.toList <+: (utf16 line).drop o.column := by
  obtain ⟨⟨place, word⟩, hmem, hsome⟩ := List.mem_filterMap.1 h
  dsimp only at hsome
  split at hsome
  · cases hsome
  · cases hsome
    obtain ⟨hword, lead, more, rfl, rfl⟩ := exists_of_mem_wordsOf hmem
    refine ⟨rfl, mt String.ofList_eq_empty_iff.1 hword, ?_⟩
    rw [String.toList_ofList, Nat.zero_add, utf16Column_append]
    exact utf16_prefix_drop lead word more

/-- The words are found line by line, and the lines count on from a number. -/
theorem exists_line_of_mem_wordOccurrencesFrom {number : Nat} {lines : List (List Char)}
    {o : Occurrence} (h : o ∈ wordOccurrencesFrom number lines) :
    ∃ i line, lines[i]? = some line ∧ o ∈ lineWords (number + i) line := by
  induction lines generalizing number with
  | nil => simp [wordOccurrencesFrom] at h
  | cons line lines ih =>
      rcases List.mem_append.1 h with hmem | hmem
      · exact ⟨0, line, rfl, hmem⟩
      · obtain ⟨i, line', hline, hfound⟩ := ih hmem
        exact ⟨i + 1, line', hline, by rwa [Nat.add_comm i, ← Nat.add_assoc]⟩

theorem standsIn_of_mem_wordOccurrences {o : Occurrence} (h : o ∈ wordOccurrences src) :
    o.StandsIn src := by
  obtain ⟨i, line, hline, hmem⟩ := exists_line_of_mem_wordOccurrencesFrom h
  obtain ⟨hnumber, htoken, hunits⟩ := found_of_mem_lineWords hmem
  refine ⟨by omega, htoken, line, ?_, hunits⟩
  rwa [hnumber, Nat.add_sub_cancel_left]

/-! ### Both ways -/

theorem standsIn_of_mem_occurrences {o : Occurrence} (h : o ∈ occurrences src) :
    o.StandsIn src := by
  unfold occurrences at h
  split at h
  next first rest hfound => exact standsIn_of_mem_syntaxOccurrences hfound h
  next => exact standsIn_of_mem_wordOccurrences h

end Source

end LookupBench
