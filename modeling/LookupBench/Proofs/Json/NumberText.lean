import LookupBench.Proofs.Json.Reads
import LookupBench.Proofs.Number.Digits

/-!
# Reading numerals

What the reader of numbers makes of digits, of digits with a point among them, and of either with an
exponent behind it.
-/

namespace LookupBench.Json.Reader

/-- What follows does not go on with a number. -/
def EndsNumber (rest : Bytes) : Prop :=
  ∀ b, rest.head? = some b → isDigit b = false ∧ b ≠ 46 ∧ b ≠ 101 ∧ b ≠ 69

theorem EndsNumber.endsDigits {rest : Bytes} (h : EndsNumber rest) : EndsDigits rest :=
  fun b hb => (h b hb).1

theorem endsDigits_cons {b : UInt8} (hb : isDigit b = false) (rest : Bytes) :
    EndsDigits (b :: rest) := by
  rintro _ ⟨⟩
  exact hb

theorem EndsNumber.notMark {rest : Bytes} (h : EndsNumber rest) :
    isExponentMark rest.head? = false ∧ rest.head? ≠ some 46 := by
  cases hhead : rest.head? with
  | none => exact ⟨rfl, by simp⟩
  | some b =>
      obtain ⟨-, hpoint, hsmall, hlarge⟩ := h b hhead
      refine ⟨?_, fun heq => hpoint (Option.some.inj heq)⟩
      simp [isExponentMark, hsmall, hlarge]

/-- The octets of a numeral: a digit and more digits, and no more behind a zero. -/
theorem IsNumeral.octets {ds : List Char} (h : IsNumeral ds) :
    ∃ d more, Utf8.encodeChars ds = d :: more ∧ isDigit d = true ∧
      (∀ b ∈ more, isDigit b = true) ∧ (d = 48 → more = []) := by
  cases ds with
  | nil => exact absurd rfl h.nonempty
  | cons c ds =>
      obtain ⟨hc, hds⟩ := List.forall_mem_cons.1 h.digits
      obtain ⟨d, hd, hdigit, hvalue⟩ := encodeChar_digit hc
      refine ⟨d, Utf8.encodeChars ds, by rw [Utf8.encodeChars, hd]; rfl, hdigit,
        isDigit_encodeChars hds, fun hzero => ?_⟩
      have hnil : ds = [] := by
        have hc0 : c = '0' := by
          obtain ⟨hlow, -⟩ := isAsciiDigit_iff.1 hc
          subst hzero
          have hnat : c.toNat = 48 := by
            have hv : c.toNat - 48 = 0 := hvalue.symm
            omega
          rw [← Char.ofNat_toNat c, hnat]
        exact List.tail_eq_of_cons_eq (h.leading (by rw [hc0]; rfl))
      rw [hnil]
      rfl

/-! ### Digits -/

theorem reads_moreDigits {d : UInt8} {more rest : Bytes} (hmore : ∀ b ∈ more, isDigit b = true)
    (hzero : d = 48 → more = []) (hrest : EndsDigits rest) :
    Reads (moreDigits d) (more ++ rest) more rest := by
  unfold moreDigits
  split
  next heq =>
    rw [hzero heq]
    apply reads_bind (reads_peek rest)
    cases hhead : rest.head? with
    | none => exact reads_pure [] rest
    | some b =>
        dsimp only
        rw [hrest b hhead]
        exact reads_pure [] rest
  next => exact reads_digits hmore hrest

theorem reads_number {negative : Bool} {ds : List Char} (h : IsNumeral ds) {rest rest' : Bytes}
    {v : Json} (hends : EndsDigits rest)
    (hpoint : rest.head? = some 46 →
      Reads (do advance; fraction negative (Utf8.encodeChars ds)) rest v rest')
    (hmark : isExponentMark rest.head? = true →
      Reads (exponent negative (decimalValue ds) 0) rest v rest')
    (hplain : isExponentMark rest.head? = false → rest.head? ≠ some 46 →
      Reads (ofInteger negative (decimalValue ds)) rest v rest') :
    Reads (number negative) (Utf8.encodeChars ds ++ rest) v rest' := by
  obtain ⟨d, more, htext, hdigit, hmore, hzero⟩ := IsNumeral.octets h
  have hwhole : decimal (d :: more) = decimalValue ds := by
    rw [← htext]
    exact decimal_encodeChars h.digits
  rw [htext] at hpoint ⊢
  rw [← hwhole] at hmark hplain
  apply reads_bind (reads_take d _)
  dsimp only
  rw [hdigit]
  refine reads_bind (reads_moreDigits hmore hzero hends) (reads_bind (reads_peek rest) ?_)
  split
  next heq => exact hpoint heq
  next hne =>
    split
    next hexp => exact hmark hexp
    next hexp => exact hplain (Bool.not_eq_true _ ▸ hexp) hne

theorem reads_finite {x : Binary64} (hx : x.isFinite = true) (rest : Bytes) :
    Reads (finite x) rest (.float x) rest := by
  rw [finite, if_pos hx]
  exact reads_pure _ rest

/-! ### Integers -/

theorem reads_integer {negative : Bool} {ds : List Char} (h : IsNumeral ds) {rest : Bytes} {v : Json}
    (hrest : EndsNumber rest)
    (hvalue : Reads (ofInteger negative (decimalValue ds)) rest v rest) :
    Reads (number negative) (Utf8.encodeChars ds ++ rest) v rest := by
  obtain ⟨hmark, hpoint⟩ := hrest.notMark
  exact reads_number h hrest.endsDigits (fun heq => absurd heq hpoint)
    (fun heq => by rw [hmark] at heq; cases heq) (fun _ _ => hvalue)

/-! ### Exponents -/

theorem le_foldl_digits (ds : Bytes) (n : Nat) :
    n ≤ ds.foldl (fun n d => 10 * n + (d.toNat - 48)) n := by
  induction ds generalizing n with
  | nil => exact Nat.le_refl n
  | cons d ds ih => exact Nat.le_trans (show n ≤ 10 * n + (d.toNat - 48) by omega) (ih _)

theorem exponentDigits_of_digits {ds rest : Bytes} {n : Nat} (hds : ∀ b ∈ ds, isDigit b = true)
    (hrest : EndsDigits rest)
    (hsmall : ds.foldl (fun n d => 10 * n + (d.toNat - 48)) n < 2 ^ 31) :
    exponentDigits n (ds ++ rest)
      = (ds.foldl (fun n d => 10 * n + (d.toNat - 48)) n, ds.length, false) := by
  induction ds generalizing n with
  | nil =>
      cases rest with
      | nil => rfl
      | cons b rest =>
          rw [List.nil_append, exponentDigits, hrest b rfl]
          rfl
  | cons d ds ih =>
      obtain ⟨hd, hds⟩ := List.forall_mem_cons.1 hds
      rw [List.foldl_cons] at hsmall
      have hless : ¬2 ^ 31 ≤ 10 * n + (d.toNat - 48) :=
        Nat.not_le.2 (Nat.lt_of_le_of_lt (le_foldl_digits ds _) hsmall)
      rw [List.cons_append, exponentDigits, if_pos hd]
      dsimp only
      rw [if_neg hless, ih hds hsmall]
      rfl

def signed (positive : Bool) (n : Nat) : Int := if positive then n else -n

theorem reads_signedExponent {negative positive : Bool} {significand scale : Nat} {ds : List Char}
    (hds : IsNumeral ds) (hsmall : decimalValue ds < 2 ^ 31) {rest : Bytes} (hrest : EndsDigits rest)
    (hx : (Binary64.ofDecimal negative significand
      (signed positive (decimalValue ds) - scale)).isFinite = true) :
    Reads (signedExponent negative positive significand scale) (Utf8.encodeChars ds ++ rest)
      (.float (Binary64.ofDecimal negative significand
        (signed positive (decimalValue ds) - scale))) rest := by
  obtain ⟨d, more, htext, hdigit, hmore, -⟩ := IsNumeral.octets hds
  have hvalue : more.foldl (fun n d => 10 * n + (d.toNat - 48)) (d.toNat - 48) = decimalValue ds := by
    rw [← decimal_encodeChars hds.digits, htext, decimal, List.foldl_cons, Nat.mul_zero,
      Nat.zero_add]
  have hexponent : exponentDigits (d.toNat - 48) (more ++ rest)
      = (decimalValue ds, more.length, false) := by
    rw [exponentDigits_of_digits hmore hrest (by rw [hvalue]; exact hsmall), hvalue]
  rw [htext]
  apply reads_bind (reads_take d (more ++ rest))
  dsimp only
  rw [hdigit]
  apply reads_get
  intro c hc
  rw [hc, hexponent]
  exact reads_bind (reads_passed more rest) (reads_finite hx rest)

theorem reads_exponent {negative positive : Bool} {significand scale : Nat} {ds : List Char}
    (hds : IsNumeral ds) (hsmall : decimalValue ds < 2 ^ 31) {rest : Bytes} (hrest : EndsDigits rest)
    (hx : (Binary64.ofDecimal negative significand
      (signed positive (decimalValue ds) - scale)).isFinite = true) :
    Reads (exponent negative significand scale)
      (101 :: (if positive then 43 else 45) :: Utf8.encodeChars ds ++ rest)
      (.float (Binary64.ofDecimal negative significand
        (signed positive (decimalValue ds) - scale))) rest := by
  have hread := reads_signedExponent hds hsmall hrest hx
  cases positive with
  | true =>
      exact reads_bind (reads_advance 101 _) (reads_bind (reads_peek _)
        (reads_bind (reads_advance 43 _) hread))
  | false =>
      exact reads_bind (reads_advance 101 _) (reads_bind (reads_peek _)
        (reads_bind (reads_advance 45 _) hread))

/-! ### Fractions -/

theorem reads_fraction {negative : Bool} {ds places : List Char} (hds : IsNumeral ds)
    (hplaces : ∀ c ∈ places, isAsciiDigit c = true) (hne : places ≠ []) {rest rest' : Bytes}
    {v : Json} (hends : EndsDigits rest)
    (hmark : isExponentMark rest.head? = true →
      Reads (exponent negative (decimalValue (ds ++ places)) places.length) rest v rest')
    (hplain : isExponentMark rest.head? = false →
      Reads (finite (Binary64.ofDecimal negative (decimalValue (ds ++ places)) (-places.length)))
        rest v rest') :
    Reads (number negative) (Utf8.encodeChars (ds ++ '.' :: places) ++ rest) v rest' := by
  have htext : Utf8.encodeChars (ds ++ '.' :: places) ++ rest
      = Utf8.encodeChars ds ++ 46 :: (Utf8.encodeChars places ++ rest) := by
    rw [Utf8.encodeChars_append, Utf8.encodeChars]
    simp [Utf8.encodeChar_of_lt (show ('.').toNat < 0x80 by decide)]
  have hlength := length_encodeChars_digits hplaces
  have hsignificand : decimal (Utf8.encodeChars ds ++ Utf8.encodeChars places)
      = decimalValue (ds ++ places) := by
    rw [← Utf8.encodeChars_append]
    apply decimal_encodeChars
    intro c hc
    exact (List.mem_append.1 hc).elim (hds.digits c) (hplaces c)
  have hnonempty : (Utf8.encodeChars places).isEmpty = false := by
    rw [← Bool.not_eq_true, List.isEmpty_iff_length_eq_zero, hlength]
    exact fun h => hne (List.length_eq_zero_iff.1 h)
  rw [htext]
  refine reads_number hds (endsDigits_cons (by decide) _) (fun _ => ?_) ?_ ?_
  · refine reads_bind (reads_advance 46 _)
      (reads_bind (reads_digits (isDigit_encodeChars hplaces) hends) ?_)
    rw [hnonempty]
    apply reads_bind (reads_peek rest)
    rw [hsignificand, hlength]
    cases hexp : isExponentMark rest.head? with
    | true => exact hmark hexp
    | false => exact hplain hexp
  · intro h
    cases h
  · intro _ h
    exact absurd rfl h

end LookupBench.Json.Reader
