import LookupBench.Json.Text
import LookupBench.Proofs.Json.Reads
import LookupBench.Proofs.Text.Utf8

/-!
# Strings there and back

A quoted string is read as the string. Quotes, backslashes and controls go through their escapes,
and every other character through its own octets, none of which looks like one of those.
-/

namespace LookupBench.Json.Reader

/-! ### Escapes -/

/-- The octet behind a backslash, and the octet that the two stand for. -/
def shortEscapes : List (UInt8 × UInt8) :=
  [(34, 34), (92, 92), (98, 8), (102, 12), (110, 10), (114, 13), (116, 9)]

theorem reads_escaped {mark b : UInt8} (h : (mark, b) ∈ shortEscapes) (rest : Bytes) :
    Reads escaped (mark :: rest) [b] rest := by
  apply reads_bind (reads_take mark rest)
  simp only [shortEscapes, List.mem_cons, Prod.mk.injEq, List.not_mem_nil, or_false] at h
  rcases h with ⟨rfl, rfl⟩ | ⟨rfl, rfl⟩ | ⟨rfl, rfl⟩ | ⟨rfl, rfl⟩ | ⟨rfl, rfl⟩ | ⟨rfl, rfl⟩ | ⟨rfl, rfl⟩ <;>
    exact reads_pure _ rest

theorem reads_hexEscape {a b c d : UInt8} {n₁ n₂ n₃ n₄ : Nat} (ha : hexValue a = some n₁)
    (hb : hexValue b = some n₂) (hc : hexValue c = some n₃) (hd : hexValue d = some n₄)
    (rest : Bytes) :
    Reads hexEscape (a :: b :: c :: d :: rest) (n₁ * 4096 + n₂ * 256 + n₃ * 16 + n₄) rest := by
  apply reads_get
  intro cursor hcursor
  rw [hcursor]
  refine reads_bind (reads_advance a _) (reads_bind (reads_advance b _)
    (reads_bind (reads_advance c _) (reads_bind (reads_advance d _) ?_)))
  rw [ha, hb, hc, hd]
  exact reads_pure _ rest

/-- The digits in the escape of a control. -/
theorem hexValue_hexDigit : ∀ n < 16,
    Utf8.encodeChar (hexDigit n) = [(hexDigit n).toNat.toUInt8] ∧
      hexValue (hexDigit n).toNat.toUInt8 = some n := by
  decide

theorem reads_control {n : Nat} (hn : n < 32) (rest : Bytes) :
    Reads escaped (Utf8.encodeChars ['u', '0', '0', hexDigit (n / 16), hexDigit (n % 16)] ++ rest)
      (Utf8.encodeChar (Char.ofNat n)) rest := by
  obtain ⟨hc, hcvalue⟩ := hexValue_hexDigit (n / 16) (by omega)
  obtain ⟨hd, hdvalue⟩ := hexValue_hexDigit (n % 16) (by omega)
  have htext : Utf8.encodeChars ['u', '0', '0', hexDigit (n / 16), hexDigit (n % 16)]
      = [117, 48, 48, (hexDigit (n / 16)).toNat.toUInt8, (hexDigit (n % 16)).toNat.toUInt8] := by
    simp only [Utf8.encodeChars, hc, hd]
    rfl
  have hzero : hexValue 48 = some 0 := by decide
  have hvalue : 0 * 4096 + 0 * 256 + n / 16 * 16 + n % 16 = n := by omega
  have hhex := reads_hexEscape hzero hzero hcvalue hdvalue rest
  rw [hvalue] at hhex
  rw [htext]
  refine reads_bind (reads_take 117 _) (reads_bind (reads_bind hhex ?_) (reads_pure _ rest))
  have hlow : isLowSurrogate n = false := by
    simp only [isLowSurrogate, Bool.and_eq_false_iff, decide_eq_false_iff_not]
    omega
  have hhigh : isHighSurrogate n = false := by
    simp only [isHighSurrogate, Bool.and_eq_false_iff, decide_eq_false_iff_not]
    omega
  rw [hlow, hhigh]
  exact reads_pure _ rest

/-! ### The octets of a string -/

/-- An octet that stands for itself. -/
def IsPlain (b : UInt8) : Prop := b ≠ 34 ∧ b ≠ 92 ∧ ¬b < 32

/-- The input goes on with the rest of a string. The reader of strings is bounded by the length of
what it is given. -/
def ReadsString (input bytes rest : Bytes) : Prop :=
  ∀ fuel, input.length < fuel → Reads (stringBytes fuel) input bytes rest

theorem readsString_quote (rest : Bytes) : ReadsString (34 :: rest) [] rest := by
  intro fuel hfuel
  obtain ⟨fuel, rfl⟩ := Nat.exists_eq_add_of_lt (Nat.zero_lt_of_lt hfuel)
  refine reads_bind (reads_peek _) (reads_bind (reads_advance 34 rest) ?_)
  exact reads_pure _ rest

theorem readsString_plain {b : UInt8} {input bytes rest : Bytes} (hb : IsPlain b)
    (h : ReadsString input bytes rest) : ReadsString (b :: input) (b :: bytes) rest := by
  intro fuel hfuel
  obtain ⟨fuel, rfl⟩ := Nat.exists_eq_add_of_lt (Nat.zero_lt_of_lt hfuel)
  refine reads_bind (reads_peek _) (reads_bind (reads_advance b input) ?_)
  rw [if_neg hb.1, if_neg hb.2.1, if_neg hb.2.2]
  rw [List.length_cons] at hfuel
  exact reads_bind (h _ (by omega)) (reads_pure _ rest)

theorem readsString_escape {input bytes middle bytes' rest : Bytes}
    (hescaped : Reads escaped input bytes middle) (hless : middle.length ≤ input.length)
    (h : ReadsString middle bytes' rest) :
    ReadsString (92 :: input) (bytes ++ bytes') rest := by
  intro fuel hfuel
  obtain ⟨fuel, rfl⟩ := Nat.exists_eq_add_of_lt (Nat.zero_lt_of_lt hfuel)
  refine reads_bind (reads_peek _) (reads_bind (reads_advance 92 input) ?_)
  rw [if_neg (by decide), if_pos rfl]
  rw [List.length_cons] at hfuel
  exact reads_bind hescaped (reads_bind (h _ (by omega)) (reads_pure _ rest))

theorem readsString_append {input bytes rest bs : Bytes} (hplain : ∀ b ∈ bs, IsPlain b)
    (h : ReadsString input bytes rest) : ReadsString (bs ++ input) (bs ++ bytes) rest := by
  induction bs with
  | nil => exact h
  | cons b bs ih =>
      obtain ⟨hb, hbs⟩ := List.forall_mem_cons.1 hplain
      exact readsString_plain hb (ih hbs)

/-! ### Characters -/

theorem isPlain_of_toNat {b : UInt8} (h : 32 ≤ b.toNat) (hquote : b.toNat ≠ 34)
    (hback : b.toNat ≠ 92) : IsPlain b := by
  refine ⟨?_, ?_, ?_⟩
  · rintro rfl
    exact hquote rfl
  · rintro rfl
    exact hback rfl
  · rw [UInt8.lt_iff_toNat_lt]
    exact Nat.not_lt.2 h

theorem isPlain_encodeChar {c : Char} (h : 32 ≤ c.toNat) (hquote : c.toNat ≠ 34)
    (hback : c.toNat ≠ 92) : ∀ b ∈ Utf8.encodeChar c, IsPlain b := by
  have hbounds := Utf8.toNat_bounds c
  have hplain : ∀ n, 0x80 ≤ n → n < 256 → IsPlain n.toUInt8 := by
    intro n hlow hhigh
    have hn : n.toUInt8.toNat = n := Utf8.toNat_toUInt8 hhigh
    exact isPlain_of_toNat (by omega) (by omega) (by omega)
  intro b hb
  unfold Utf8.encodeChar at hb
  dsimp only at hb
  split at hb
  next hone =>
    obtain rfl := List.mem_singleton.1 hb
    have hn : c.toNat.toUInt8.toNat = c.toNat := Utf8.toNat_toUInt8 (by omega)
    exact isPlain_of_toNat (by omega) (by omega) (by omega)
  next hone =>
    split at hb
    next htwo =>
      simp only [List.mem_cons, List.not_mem_nil, or_false] at hb
      rcases hb with rfl | rfl <;> exact hplain _ (by omega) (by omega)
    next htwo =>
      split at hb
      next hthree =>
        simp only [List.mem_cons, List.not_mem_nil, or_false] at hb
        rcases hb with rfl | rfl | rfl <;> exact hplain _ (by omega) (by omega)
      next hthree =>
        simp only [List.mem_cons, List.not_mem_nil, or_false] at hb
        rcases hb with rfl | rfl | rfl | rfl <;> exact hplain _ (by omega) (by omega)

theorem readsString_char (c : Char) {input bytes rest : Bytes} (h : ReadsString input bytes rest) :
    ReadsString (Utf8.encodeChars (escape c) ++ input) (Utf8.encodeChar c ++ bytes) rest := by
  have hshort : ∀ mark b : UInt8, (mark, b) ∈ shortEscapes →
      ReadsString (92 :: mark :: input) (b :: bytes) rest := fun mark b hmem =>
    readsString_escape (reads_escaped hmem input) (by simp) h
  have hnumber : ∀ n, c.toNat = n → c = Char.ofNat n := by
    rintro n rfl
    rw [Char.ofNat_toNat]
  unfold escape
  by_cases hquote : c = '"'
  · subst hquote
    exact hshort 34 34 (by decide)
  by_cases hback : c = '\\'
  · subst hback
    exact hshort 92 92 (by decide)
  by_cases hfeed : c = '\n'
  · subst hfeed
    exact hshort 110 10 (by decide)
  by_cases hreturn : c = '\r'
  · subst hreturn
    exact hshort 114 13 (by decide)
  by_cases htab : c = '\t'
  · subst htab
    exact hshort 116 9 (by decide)
  by_cases hbackspace : c.toNat = 8
  · obtain rfl := hnumber 8 hbackspace
    exact hshort 98 8 (by decide)
  by_cases hform : c.toNat = 12
  · obtain rfl := hnumber 12 hform
    exact hshort 102 12 (by decide)
  rw [if_neg hquote, if_neg hback, if_neg hfeed, if_neg hreturn, if_neg htab, if_neg hbackspace,
    if_neg hform]
  by_cases hcontrol : c.toNat < 0x20
  · rw [if_pos hcontrol]
    have hread := reads_control hcontrol input
    rw [Char.ofNat_toNat] at hread
    exact readsString_escape hread (by simp) h
  · rw [if_neg hcontrol, Utf8.encodeChars, Utf8.encodeChars_nil, List.append_nil]
    refine readsString_append (isPlain_encodeChar (Nat.not_lt.1 hcontrol) ?_ ?_) h
    · exact fun heq => hquote (hnumber 34 heq)
    · exact fun heq => hback (hnumber 92 heq)

theorem readsString_chars (rest : Bytes) (cs : List Char) :
    ReadsString (Utf8.encodeChars (cs.flatMap escape) ++ 34 :: rest) (Utf8.encodeChars cs)
      rest := by
  induction cs with
  | nil => exact readsString_quote rest
  | cons c cs ih =>
      rw [List.flatMap_cons, Utf8.encodeChars_append, List.append_assoc, Utf8.encodeChars]
      exact readsString_char c ih

theorem reads_string (s : String) (rest : Bytes) :
    Reads string (Utf8.encodeChars (s.toList.flatMap escape) ++ 34 :: rest) s rest := by
  refine reads_get fun c hc => reads_bind (readsString_chars rest s.toList _ ?_) ?_
  · rw [hc]
    exact Nat.lt_succ_self _
  · have hs : Utf8.decodeString? (Utf8.encodeChars s.toList) = some s := Utf8.decodeString?_encode s
    rw [hs]
    exact reads_pure s rest

theorem encodeChars_quote (s : String) :
    Utf8.encodeChars (quote s) = 34 :: Utf8.encodeChars (s.toList.flatMap escape) ++ [34] := by
  rw [quote, List.cons_append, Utf8.encodeChars, Utf8.encodeChars_append]
  rfl

end LookupBench.Json.Reader
