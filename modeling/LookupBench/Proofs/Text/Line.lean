import LookupBench.Proofs.Text.Utf8
import LookupBench.Text.Line
import Mathlib.Data.List.DropRight

/-!
# Places in lines

A text is also the sequence of its UTF-16 code units, and a column counts those. Where a word stands
in a text, however its lines end, it stands in one of them, behind what precedes it since the last
line feed; and the octets of what precedes it come to the column where its units begin.
-/

namespace LookupBench

/-! ### Code units -/

/-- The UTF-16 code units of a character: itself, or a high and a low surrogate. -/
def utf16Units (c : Char) : List UInt16 :=
  let n := c.toNat
  if n < 0x10000 then [n.toUInt16]
  else [(0xD800 + (n - 0x10000) / 0x400).toUInt16, (0xDC00 + (n - 0x10000) % 0x400).toUInt16]

def utf16 (cs : List Char) : List UInt16 := cs.flatMap utf16Units

@[simp] theorem utf16_append (cs ds : List Char) : utf16 (cs ++ ds) = utf16 cs ++ utf16 ds :=
  List.flatMap_append

@[simp] theorem length_utf16 (cs : List Char) : (utf16 cs).length = utf16Length cs := by
  induction cs with
  | nil => rfl
  | cons c cs ih =>
      have hunits : (utf16Units c).length = utf16Width c := by
        unfold utf16Units utf16Width
        dsimp only
        split <;> rfl
      have hcons : utf16 (c :: cs) = utf16Units c ++ utf16 cs := List.flatMap_cons
      rw [hcons, List.length_append, hunits, ih, utf16Length]

theorem utf16Length_append (cs ds : List Char) :
    utf16Length (cs ++ ds) = utf16Length cs + utf16Length ds := by
  simp [← length_utf16]

theorem utf16Length_pos {cs : List Char} (h : cs ≠ []) : 0 < utf16Length cs := by
  cases cs with
  | nil => exact absurd rfl h
  | cons c cs =>
      rw [utf16Length, utf16Width]
      split <;> omega

/-- The units of a word begin where those of what precedes it end. -/
theorem utf16_prefix_drop (before word after : List Char) :
    utf16 word <+: (utf16 (before ++ (word ++ after))).drop (utf16Length before) := by
  rw [utf16_append, utf16_append, ← length_utf16, List.drop_left]
  exact List.prefix_append _ _

/-! ### From octets to units -/

theorem Utf8.length_encodeChar_pos (c : Char) : 0 < (Utf8.encodeChar c).length := by
  unfold Utf8.encodeChar
  dsimp only
  split
  · exact Nat.one_pos
  · split
    · exact Nat.two_pos
    · split
      · exact Nat.succ_pos 2
      · exact Nat.succ_pos 3

theorem spanOf?_cons {c : Char} {n : Nat} (hle : (Utf8.encodeChar c).length ≤ n) (rest : List Char) :
    spanOf? n (c :: rest)
      = (spanOf? (n - (Utf8.encodeChar c).length) rest).map (c :: ·) := by
  obtain ⟨n, rfl⟩ := Nat.exists_eq_add_of_lt ((Utf8.length_encodeChar_pos c).trans_le hle)
  rw [Nat.zero_add] at hle ⊢
  rw [spanOf?, if_pos hle]

theorem spanOf?_encodeChars (cs ds : List Char) :
    spanOf? (Utf8.encodeChars cs).length (cs ++ ds) = some cs := by
  induction cs with
  | nil => cases ds <;> rfl
  | cons c cs ih =>
      rw [Utf8.encodeChars, List.length_append, List.cons_append,
        spanOf?_cons (Nat.le_add_right _ _), Nat.add_sub_cancel_left, ih, Option.map_some]

/-- At the end of a character there is a column to tell. -/
theorem utf16Column_append (cs ds : List Char) :
    utf16Column (cs ++ ds) (Utf8.encodeChars cs).length = utf16Length cs := by
  rw [utf16Column, spanOf?_encodeChars, Option.map_some, Option.getD_some]

/-! ### Lines -/

/-- What stands behind the last line feed of a text. -/
abbrev lineLead (cs : List Char) : List Char := cs.rtakeWhile (· ≠ '\n')

theorem lineLead_of_notMem {cs : List Char} (h : '\n' ∉ cs) : lineLead cs = cs := by
  rw [lineLead, List.rtakeWhile_eq_self_iff]
  intro c hc
  simpa using fun heq : c = '\n' => h (heq ▸ hc)

theorem lineLead_append_of_notMem (cs : List Char) {ds : List Char} (h : '\n' ∉ ds) :
    lineLead (cs ++ ds) = lineLead cs ++ ds := by
  have hall : ∀ d ∈ ds.reverse, decide (d ≠ '\n') = true := by
    intro d hd
    simpa using fun heq : d = '\n' => h (heq ▸ List.mem_reverse.1 hd)
  rw [lineLead, List.rtakeWhile, List.reverse_append, List.takeWhile_append_of_pos hall,
    List.reverse_append, List.reverse_reverse]
  rfl

theorem lineLead_cons_of_mem {c : Char} {cs : List Char} (h : '\n' ∈ cs) :
    lineLead (c :: cs) = lineLead cs := by
  have hshort : (cs.reverse.takeWhile (· ≠ '\n')).length ≠ cs.reverse.length := by
    intro hall
    have hwhole : cs.reverse.takeWhile (· ≠ '\n') = cs.reverse :=
      (List.takeWhile_prefix _).eq_of_length hall
    have hnone := List.takeWhile_eq_self_iff.1 hwhole '\n' (List.mem_reverse.2 h)
    simp at hnone
  rw [lineLead, List.rtakeWhile, List.reverse_cons, List.takeWhile_append, if_neg hshort]
  rfl

theorem lineLead_newline (cs : List Char) : lineLead ('\n' :: cs) = lineLead cs := by
  by_cases h : '\n' ∈ cs
  · exact lineLead_cons_of_mem h
  · have hall : ∀ c ∈ cs.reverse, decide (c ≠ '\n') = true := fun c hc => by
      simpa using fun heq : c = '\n' => h (heq ▸ List.mem_reverse.1 hc)
    rw [lineLead_of_notMem h, lineLead, List.rtakeWhile, List.reverse_cons,
      List.takeWhile_append_of_pos hall, List.takeWhile_cons_of_neg (by simp), List.append_nil,
      List.reverse_reverse]

/-- A character that ends no line goes in front of the first line of what follows. -/
theorem linesOf_cons {c : Char} {rest : List Char} (hfeed : c ≠ '\n')
    (hreturn : c = '\r' → rest.head? ≠ some '\n') :
    linesOf (c :: rest) = (c :: (linesOf rest).headD []) :: (linesOf rest).tail := by
  rw [linesOf]
  · cases linesOf rest <;> rfl
  · exact hfeed
  · rintro rest' rfl rfl
    exact hreturn rfl rfl

/-- The first line of a text goes at least as far as a word that the text starts with. -/
theorem exists_linesOf_append {word : List Char} (hword : word ≠ [])
    (hplain : ∀ c ∈ word, c ≠ '\n' ∧ c ≠ '\r') (after : List Char) :
    ∃ more lines, linesOf (word ++ after) = (word ++ more) :: lines := by
  induction word with
  | nil => exact absurd rfl hword
  | cons c word ih =>
      have hc := hplain c List.mem_cons_self
      have hreturn : c = '\r' → (word ++ after).head? ≠ some '\n' := fun heq => absurd heq hc.2
      rw [List.cons_append, linesOf_cons hc.1 hreturn]
      cases word with
      | nil => exact ⟨_, _, rfl⟩
      | cons d word =>
          obtain ⟨more, lines, hlines⟩ := ih (List.cons_ne_nil _ _) fun c hmem =>
            hplain c (List.mem_cons_of_mem _ hmem)
          exact ⟨more, lines, by rw [hlines]; rfl⟩

/-- A character that ends no line moves what stands in its line, and no other line. -/
theorem getElem?_linesOf_cons {c : Char} {before rest line : List Char} (hfeed : c ≠ '\n')
    (hreturn : c = '\r' → (before ++ rest).head? ≠ some '\n')
    (hline : (linesOf (before ++ rest))[before.count '\n']? = some (lineLead before ++ line)) :
    (linesOf (c :: before ++ rest))[(c :: before).count '\n']?
      = some (lineLead (c :: before) ++ line) := by
  rw [List.cons_append, linesOf_cons hfeed hreturn, List.count_cons_of_ne hfeed]
  by_cases hmem : '\n' ∈ before
  · obtain ⟨n, hn⟩ := Nat.exists_eq_succ_of_ne_zero (List.count_pos_iff.2 hmem).ne'
    rw [hn] at hline ⊢
    rw [lineLead_cons_of_mem hmem, List.getElem?_cons_succ, List.getElem?_tail]
    exact hline
  · have hmem' : '\n' ∉ c :: before := List.not_mem_cons_of_ne_of_not_mem hfeed.symm hmem
    rw [List.count_eq_zero.2 hmem, lineLead_of_notMem hmem] at hline
    rw [List.count_eq_zero.2 hmem, lineLead_of_notMem hmem', List.getElem?_cons_zero,
      List.headD_eq_head?_getD, List.head?_eq_getElem?, hline]
    rfl

/-- A word stands in the line that has as many in front of it as there are line feeds in front of the
word. There it follows what stands behind the last of these. -/
theorem exists_getElem?_linesOf (before : List Char) {word : List Char} (hword : word ≠ [])
    (hplain : ∀ c ∈ word, c ≠ '\n' ∧ c ≠ '\r') (after : List Char) :
    ∃ more, (linesOf (before ++ (word ++ after)))[before.count '\n']?
      = some (lineLead before ++ (word ++ more)) := by
  have hstart : (word ++ after).head? ≠ some '\n' := by
    obtain ⟨c, word, rfl⟩ := List.exists_cons_of_ne_nil hword
    simpa using (hplain c List.mem_cons_self).1
  -- a carriage return at the end of `before` is not followed by a line feed
  have hbehind : ∀ {c : Char} {rest : List Char}, (∀ rest', c = '\r' → rest = '\n' :: rest' → False) →
      c = '\r' → (rest ++ (word ++ after)).head? ≠ some '\n' := by
    intro c rest hreturn hc
    cases rest with
    | nil => exact hstart
    | cons d rest => simpa using fun heq : d = '\n' => hreturn rest hc (heq ▸ rfl)
  induction before using linesOf.induct with
  | case1 =>
      obtain ⟨more, lines, hlines⟩ := exists_linesOf_append hword hplain after
      exact ⟨more, by simp [hlines]⟩
  | case2 rest ih =>
      obtain ⟨more, hline⟩ := ih
      refine ⟨more, ?_⟩
      rw [lineLead_newline, List.count_cons_self]
      exact hline
  | case3 rest ih =>
      obtain ⟨more, hline⟩ := ih
      refine ⟨more, ?_⟩
      rw [lineLead_cons_of_mem List.mem_cons_self, lineLead_newline,
        List.count_cons_of_ne (by decide), List.count_cons_self]
      exact hline
  | case4 c rest hfeed hreturn _ ih | case5 c rest hfeed hreturn _ _ _ ih =>
      obtain ⟨more, hline⟩ := ih
      exact ⟨more, getElem?_linesOf_cons hfeed (hbehind hreturn) hline⟩

end LookupBench
