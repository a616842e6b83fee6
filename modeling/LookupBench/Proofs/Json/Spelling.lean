import LookupBench.Json.Text
import LookupBench.Proofs.Json.NumberText
import LookupBench.Proofs.Number.ReadBack
import LookupBench.Proofs.Number.Shortest

/-!
# The numbers of JSON texts there and back

The spelling of a number, be it an integer, a positional fraction or one with an exponent, is read as
that number, whatever follows it that is no part of a number.
-/

namespace LookupBench.Json.Reader

open Binary64

/-- What is written behind the sign of a number, and the number that is read from it. -/
structure Spells (negative : Bool) (text : List Char) (v : Json) : Prop where
  leading : ∃ c, text.head? = some c ∧ isAsciiDigit c = true
  reads : ∀ rest, EndsNumber rest → Reads (number negative) (Utf8.encodeChars text ++ rest) v rest

theorem IsNumeral.head?_append {ds : List Char} (h : IsNumeral ds) (more : List Char) :
    ∃ c, (ds ++ more).head? = some c ∧ isAsciiDigit c = true := by
  cases ds with
  | nil => exact absurd rfl h.nonempty
  | cons c ds => exact ⟨c, rfl, h.digits c List.mem_cons_self⟩

section Numerals

variable {negative : Bool} {ds places : List Char} {x : Binary64}

theorem spells_integer {v : Json} (hds : IsNumeral ds)
    (hvalue : ∀ rest, Reads (ofInteger negative (decimalValue ds)) rest v rest) :
    Spells negative ds v :=
  ⟨by simpa using IsNumeral.head?_append hds [],
    fun rest hrest => reads_integer hds hrest (hvalue rest)⟩

theorem spells_fraction (hds : IsNumeral ds) (hplaces : ∀ c ∈ places, isAsciiDigit c = true)
    (hne : places ≠ [])
    (hx : ofDecimal negative (decimalValue (ds ++ places)) (-places.length) = x)
    (hfinite : x.isFinite = true) : Spells negative (ds ++ '.' :: places) (.float x) := by
  refine ⟨IsNumeral.head?_append hds _, fun rest hrest => ?_⟩
  have hmark := hrest.notMark.1
  refine reads_fraction hds hplaces hne hrest.endsDigits (fun h => ?_) (fun _ => ?_)
  · rw [hmark] at h
    cases h
  · rw [hx]
    exact reads_finite hfinite rest

theorem signed_natAbs (e : Int) : signed (decide (0 ≤ e)) e.natAbs = e := by
  unfold signed
  by_cases he : 0 ≤ e
  · rw [if_pos (decide_eq_true he)]
    omega
  · rw [if_neg (by simpa using he)]
    omega

theorem encodeChars_mark (e : Int) (ds : List Char) :
    Utf8.encodeChars ((if e < 0 then ['e', '-'] else ['e', '+']) ++ ds)
      = 101 :: (if decide (0 ≤ e) then 43 else 45) :: Utf8.encodeChars ds := by
  by_cases he : e < 0
  · rw [if_pos he, decide_eq_false (by omega)]
    rfl
  · rw [if_neg he, decide_eq_true (by omega)]
    rfl

/-- A digit, places behind the point if there are any, and an exponent. -/
theorem spells_scientific {c : Char} {point : Int} (hc : isAsciiDigit c = true)
    (hplaces : ∀ c ∈ places, isAsciiDigit c = true) (hsmall : (point - 1).natAbs < 2 ^ 31)
    (hx : ofDecimal negative (decimalValue (c :: places)) (point - 1 - places.length) = x)
    (hfinite : x.isFinite = true) : Spells negative (scientific (c :: places) point) (.float x) := by
  have hfirst : IsNumeral [c] :=
    ⟨by simpa using hc, by simp, fun h => by rw [Option.some.inj h]⟩
  obtain ⟨hexponent, hvalue⟩ := Decimal.isNumeral_natDigits (point - 1).natAbs
  refine ⟨by cases places <;> exact ⟨c, rfl, hc⟩, fun rest hrest => ?_⟩
  have hread : Reads (exponent negative (decimalValue (c :: places)) places.length)
      (101 :: (if decide (0 ≤ point - 1) then 43 else 45) ::
        Utf8.encodeChars (Decimal.natDigits (point - 1).natAbs) ++ rest) (.float x) rest := by
    have hsame : ofDecimal negative (decimalValue (c :: places))
        (signed (decide (0 ≤ point - 1)) (decimalValue (Decimal.natDigits (point - 1).natAbs))
          - places.length) = x := by
      rw [hvalue, signed_natAbs, hx]
    rw [← hsame] at hfinite ⊢
    exact reads_exponent hexponent (by rw [hvalue]; exact hsmall) hrest.endsDigits hfinite
  unfold scientific
  dsimp only
  rw [List.append_assoc, Utf8.encodeChars_append, encodeChars_mark, List.append_assoc]
  cases places with
  | nil =>
      refine reads_number hfirst (endsDigits_cons (by decide) _) (fun h => ?_) (fun _ => hread)
        (fun h _ => ?_)
      · cases h
      · cases h
  | cons d more =>
      change Reads _ (Utf8.encodeChars ([c] ++ '.' :: d :: more) ++ _) _ _
      refine reads_fraction hfirst hplaces (List.cons_ne_nil d more) (endsDigits_cons (by decide) _)
        (fun _ => hread) (fun h => ?_)
      cases h

end Numerals

/-! ### Integers -/

theorem reads_ofInteger {i : Int} (hlow : -(2 ^ 63) ≤ i) (hhigh : i < 2 ^ 64) (rest : Bytes) :
    Reads (ofInteger (decide (i < 0)) i.natAbs) rest (.int i) rest := by
  unfold ofInteger
  by_cases hi : i < 0
  · have hcast : -(i.natAbs : Int) = i := by omega
    rw [decide_eq_true hi, if_neg (by simp), if_pos (by simp; omega), hcast]
    exact reads_pure _ rest
  · have hcast : (i.natAbs : Int) = i := by omega
    rw [decide_eq_false hi, if_pos (by simp; omega), hcast]
    exact reads_pure _ rest

theorem spells_intDigits {i : Int} (hlow : -(2 ^ 63) ≤ i) (hhigh : i < 2 ^ 64) :
    Decimal.intDigits i = sign (decide (i < 0)) ++ Decimal.natDigits i.natAbs ∧
      Spells (decide (i < 0)) (Decimal.natDigits i.natAbs) (.int i) := by
  obtain ⟨hds, hvalue⟩ := Decimal.isNumeral_natDigits i.natAbs
  constructor
  · unfold Decimal.intDigits sign
    by_cases hi : i < 0 <;> simp [hi]
  · apply spells_integer hds
    intro rest
    rw [hvalue]
    exact reads_ofInteger hlow hhigh rest

/-! ### Numbers with places -/

/-- Digits and an exponent from which a number is read back, wherever the point is put. -/
structure ReadsBack (negative : Bool) (ds : List Char) (k : ℤ) (x : Binary64) : Prop where
  numeral : IsNumeral ds
  positive : 0 < decimalValue ds
  small : decimalValue ds < 10 ^ 18
  finite : x.isFinite = true
  back : ∀ (n : ℕ) (j : ℤ), n < 10 ^ 18 → (n : ℚ) * 10 ^ j = decimalValue ds * 10 ^ k →
    ofDecimal negative n j = x

theorem digits_zeros (n : Nat) : ∀ c ∈ zeros n, isAsciiDigit c = true := by
  intro c hc
  rw [(List.mem_replicate.1 hc).2]
  decide

section Floats

variable {negative : Bool} {ds : List Char} {k : ℤ} {x : Binary64}

theorem ReadsBack.ne_zero (h : ReadsBack negative ds k x) : ds ≠ ['0'] := by
  rintro rfl
  exact absurd h.positive (by decide)

theorem ReadsBack.length_le (h : ReadsBack negative ds k x) : ds.length ≤ 18 := by
  have hpow := (h.numeral.pow_le h.ne_zero).trans_lt h.small
  have := (Nat.pow_lt_pow_iff_right (by omega)).1 hpow
  omega

theorem spells_leadingZeros (h : ReadsBack negative ds k x) (hpoint : ds.length + k ≤ 0) :
    Spells negative (['0', '.'] ++ zeros (-(ds.length + k)).toNat ++ ds) (.float x) := by
  have hvalue : decimalValue (['0'] ++ (zeros (-(ds.length + k)).toNat ++ ds)) = decimalValue ds := by
    rw [← List.append_assoc, decimalValue_append]
    change decimalValue (List.replicate (_ + 1) '0') * _ + _ = _
    rw [decimalValue_replicate_zero, Nat.zero_mul, Nat.zero_add]
  change Spells negative (['0'] ++ '.' :: (zeros _ ++ ds)) (.float x)
  refine spells_fraction isNumeral_zero (fun c hc => ?_) (by simp [h.numeral.nonempty]) ?_ h.finite
  · exact (List.mem_append.1 hc).elim (digits_zeros _ c) (h.numeral.digits c)
  · rw [hvalue]
    apply h.back _ _ h.small
    rw [List.length_append, zeros, List.length_replicate]
    congr 2
    omega

theorem spells_trailingZeros (h : ReadsBack negative ds k x) (hk : 0 ≤ k)
    (hpoint : ds.length + k ≤ 16) :
    Spells negative (ds ++ zeros k.toNat ++ ['.', '0']) (.float x) := by
  obtain ⟨j, rfl⟩ := Int.eq_ofNat_of_zero_le hk
  have hvalue : decimalValue (ds ++ zeros j ++ ['0']) = decimalValue ds * 10 ^ (j + 1) := by
    rw [List.append_assoc, decimalValue_append]
    change _ + decimalValue (List.replicate j '0' ++ ['0']) = _
    rw [← List.replicate_succ', decimalValue_replicate_zero, List.length_append, zeros,
      List.length_replicate, List.length_singleton, Nat.add_zero]
  rw [Int.toNat_natCast]
  refine spells_fraction (h.numeral.append h.ne_zero (digits_zeros j)) isNumeral_zero.digits
    (List.cons_ne_nil _ _) ?_ h.finite
  rw [hvalue]
  apply h.back _ _
  · calc decimalValue ds * 10 ^ (j + 1) < 10 ^ ds.length * 10 ^ (j + 1) :=
          Nat.mul_lt_mul_of_pos_right (decimalValue_lt h.numeral.digits) (Nat.pow_pos (by omega))
      _ = 10 ^ (ds.length + (j + 1)) := (Nat.pow_add ..).symm
      _ ≤ 10 ^ 18 := Nat.pow_le_pow_right (by omega) (by omega)
  · push_cast
    rw [List.length_singleton, pow_succ, zpow_natCast]
    norm_num
    ring

theorem spells_inner (h : ReadsBack negative ds k x) {n : Nat} (hn : n ≠ 0)
    (hless : n < ds.length) (hk : (ds.length : ℤ) + k = n) :
    Spells negative (ds.take n ++ '.' :: ds.drop n) (.float x) := by
  refine spells_fraction (h.numeral.take hn)
    (fun c hc => h.numeral.digits c (List.mem_of_mem_drop hc)) (by simpa using hless) ?_ h.finite
  rw [List.take_append_drop]
  apply h.back _ _ h.small
  rw [List.length_drop]
  congr 2
  omega

theorem spells_positional (h : ReadsBack negative ds k x) (hpoint : ds.length + k ≤ 16) :
    Spells negative (positional ds (ds.length + k)) (.float x) := by
  unfold positional
  split
  next hlow => exact spells_leadingZeros h hlow
  next hlow =>
    dsimp only
    split
    next hall =>
      have hzeros : ((ds.length : ℤ) + k).toNat - ds.length = k.toNat := by omega
      rw [hzeros]
      exact spells_trailingZeros h (by omega) hpoint
    next hall => exact spells_inner h (by omega) (by omega) (by omega)

theorem ReadsBack.spells_scientific (h : ReadsBack negative ds k x) (hlow : -400 < k)
    (hhigh : k < 400) : Spells negative (scientific ds (ds.length + k)) (.float x) := by
  have hlength := h.length_le
  have hnumeral := h.numeral
  cases ds with
  | nil => exact absurd rfl hnumeral.nonempty
  | cons c places =>
      obtain ⟨hc, hplaces⟩ := List.forall_mem_cons.1 hnumeral.digits
      rw [List.length_cons] at hlength ⊢
      refine Reader.spells_scientific hc hplaces (by omega) (h.back _ _ h.small ?_) h.finite
      congr 2
      omega

end Floats

theorem readsBack_shortest {x : Binary64} {negative : Bool} {m : ℕ} {e : ℤ}
    (hparts : x.parts = .finite negative m e) (hfinite : x.isFinite = true) (hm : m ≠ 0) :
    ReadsBack negative (Decimal.natDigits (Decimal.shortest m e).digits)
        (Decimal.shortest m e).exponent x ∧
      -400 < (Decimal.shortest m e).exponent ∧ (Decimal.shortest m e).exponent < 400 := by
  obtain ⟨-, hfinest, hlargest, hfits, -⟩ := canonical_of_parts hparts
  obtain ⟨hwithin, hsmall⟩ := Decimal.shortest_spec (Nat.pos_of_ne_zero hm) hfits hfinest hlargest
  obtain ⟨hnumeral, hvalue⟩ := Decimal.isNumeral_natDigits (Decimal.shortest m e).digits
  have hpositive : 0 < (Decimal.shortest m e).digits := by
    have hlow := (lowEnd_pos (e := e) (Nat.pos_of_ne_zero hm)).trans_le hwithin.low
    rw [Nat.pos_iff_ne_zero]
    intro hzero
    rw [Decimal.value, hzero, Nat.cast_zero, zero_mul] at hlow
    exact hlow.false
  refine ⟨⟨hnumeral, by rwa [hvalue], by rw [hvalue]; omega, hfinite, fun n j hn heq => ?_⟩,
    hwithin.exponent_bounds (Nat.pos_of_ne_zero hm) hfits hfinest hlargest hpositive hsmall⟩
  apply ofDecimal_eq_of_within hparts (Nat.pos_of_ne_zero hm) hn
  rw [heq, hvalue]
  exact hwithin

/-- A finite number is read back from its spelling. -/
theorem spells_jsonText {x : Binary64} (hfinite : x.isFinite = true) :
    ∃ negative text, x.jsonText = sign negative ++ text ∧ Spells negative text (.float x) := by
  obtain ⟨negative, m, e, hparts⟩ := exists_parts_of_isFinite hfinite
  unfold jsonText
  rw [hparts]
  dsimp only
  split
  next hzero =>
    subst hzero
    refine ⟨negative, ['0'] ++ '.' :: ['0'], rfl,
      spells_fraction isNumeral_zero isNumeral_zero.digits (List.cons_ne_nil _ _) ?_ hfinite⟩
    exact (eq_zero_of_parts hparts).symm
  next hm =>
    obtain ⟨hback, hlow, hhigh⟩ := readsBack_shortest hparts hfinite hm
    split
    next hpoint => exact ⟨negative, _, rfl, spells_positional hback hpoint.2⟩
    next => exact ⟨negative, _, rfl, hback.spells_scientific hlow hhigh⟩

end LookupBench.Json.Reader
