import LookupBench.Proofs.Number.Rounding
import Mathlib.Tactic.LinearCombination

/-!
# Exact arithmetic

The numbers behind the bits. A result that has at most 53 binary digits is not rounded at all, so
products and quotients of small natural numbers are those of the naturals.
-/

namespace LookupBench.Binary64

/-! ### Bits and parts -/

theorem toNat_pack {negative : Bool} {k : ℕ} (hk : k < 2 ^ 63) :
    (pack negative k).bits.toNat = (if negative then 2 ^ 63 else 0) + k := by
  simp only [pack, UInt64.toNat_ofNat']
  apply Nat.mod_eq_of_lt
  split <;> omega

theorem isNegative_pack {negative : Bool} {k : ℕ} (hk : k < 2 ^ 63) :
    (pack negative k).isNegative = negative := by
  rw [isNegative, toNat_pack hk]
  cases negative
  · simpa using hk
  · simp

theorem fraction_pack {negative : Bool} {k : ℕ} (hk : k < 2 ^ 63) :
    (pack negative k).fraction = k % 2 ^ 52 := by
  rw [fraction, toNat_pack hk]
  split <;> omega

theorem exponentField_pack {negative : Bool} {k : ℕ} (hk : k < 2 ^ 63) :
    (pack negative k).exponentField = k / 2 ^ 52 := by
  rw [exponentField, toNat_pack hk]
  split <;> omega

/-- A point of the grid that is not past the largest number has its own bits. -/
theorem parts_pack {q : ℤ} {r : ℕ} (negative : Bool) (hq : -1074 ≤ q) (hq' : q ≤ 970)
    (hr : r ≤ 2 ^ 53) (hfull : q = -1074 ∨ 2 ^ 52 ≤ r) :
    ∃ m e, (pack negative (magnitude q r)).parts = .finite negative m e ∧
      (m : ℚ) * 2 ^ e = r * 2 ^ q := by
  have hk : magnitude q r < 2 ^ 63 := by
    unfold magnitude
    omega
  unfold parts
  rw [exponentField_pack hk, fraction_pack hk, isNegative_pack hk]
  unfold magnitude
  dsimp only
  rw [if_neg (by omega)]
  rcases Nat.lt_or_ge r (2 ^ 52) with hless | hmore
  · -- without a leading digit
    obtain rfl := hfull.resolve_right (by omega)
    rw [if_pos (by omega)]
    refine ⟨_, _, rfl, ?_⟩
    congr 2
    omega
  · rw [if_neg (by omega)]
    rcases hr.eq_or_lt with rfl | hless
    · -- carried into the exponent
      refine ⟨_, _, rfl, ?_⟩
      have hm : 2 ^ 52 + ((q + 1074).toNat * 2 ^ 52 + 2 ^ 53) % 2 ^ 52 = 2 ^ 52 := by omega
      have he : (((q + 1074).toNat * 2 ^ 52 + 2 ^ 53) / 2 ^ 52 : ℕ) - (1075 : ℤ) = q + (1 : ℕ) := by
        omega
      rw [hm, he, two_zpow_add]
      push_cast
      ring
    · refine ⟨_, _, rfl, ?_⟩
      have hm : 2 ^ 52 + ((q + 1074).toNat * 2 ^ 52 + r) % 2 ^ 52 = r := by omega
      have he : (((q + 1074).toNat * 2 ^ 52 + r) / 2 ^ 52 : ℕ) - (1075 : ℤ) = q := by omega
      rw [hm, he]

/-- What the parts of a finite number can be. -/
structure Canonical (negative : Bool) (m : ℕ) (e : ℤ) (x : Binary64) : Prop where
  bits : x = pack negative (magnitude e m)
  finest : -1074 ≤ e
  largest : e ≤ 971
  fits : m < 2 ^ 53
  full : e = -1074 ∨ 2 ^ 52 ≤ m

theorem canonical_of_parts {x : Binary64} {negative : Bool} {m : ℕ} {e : ℤ}
    (h : x.parts = .finite negative m e) : Canonical negative m e x := by
  have hbits : x.bits.toNat < 2 ^ 64 := x.bits.toNat_lt
  have hx : ∀ k, x.bits.toNat = (if x.isNegative then 2 ^ 63 else 0) + k →
      x = pack x.isNegative k := by
    intro k heq
    cases x
    simp only [pack, Binary64.mk.injEq]
    rw [← heq]
    exact (UInt64.ofNat_toNat).symm
  have hneg : x.isNegative = decide (2 ^ 63 ≤ x.bits.toNat) := rfl
  unfold parts at h
  dsimp only at h
  split at h
  · split at h <;> cases h
  next hfield =>
    unfold exponentField fraction at h
    unfold exponentField at hfield
    split at h
    next hzero =>
      cases h
      refine ⟨hx _ ?_, by omega, by omega, by omega, .inl rfl⟩
      unfold magnitude
      rw [hneg]
      by_cases hsign : 2 ^ 63 ≤ x.bits.toNat
      · rw [if_pos (decide_eq_true hsign)]
        omega
      · rw [if_neg (by simpa using hsign)]
        omega
    next hzero =>
      cases h
      refine ⟨hx _ ?_, by omega, by omega, by omega, .inr (by omega)⟩
      unfold magnitude
      rw [hneg]
      by_cases hsign : 2 ^ 63 ≤ x.bits.toNat
      · rw [if_pos (decide_eq_true hsign)]
        omega
      · rw [if_neg (by simpa using hsign)]
        omega

/-! ### Values -/

/-- A finite number with no minus sign stands for `v`. -/
def HasValue (x : Binary64) (v : ℚ) : Prop :=
  ∃ m e, x.parts = .finite false m e ∧ v = m * 2 ^ e

theorem Canonical.nearest {negative : Bool} {m : ℕ} {e : ℤ} {x : Binary64}
    (h : Canonical negative m e x) : Nearest (m * 2 ^ e) e m := by
  have hpos := two_zpow_pos e
  refine ⟨h.finest, ?_, ?_, ?_⟩
  · have hpow : (2 : ℚ) ^ (e + 53) = (2 ^ 53 : ℕ) * 2 ^ e := two_zpow_add e 53
    rw [hpow]
    exact mul_lt_mul_of_pos_right (by exact_mod_cast h.fits) hpos
  · have hpow : (2 : ℚ) ^ (e + 52) = (2 ^ 52 : ℕ) * 2 ^ e := two_zpow_add e 52
    rw [hpow]
    exact h.full.imp_right fun hfull =>
      mul_le_mul_of_nonneg_right (by exact_mod_cast hfull) hpos.le
  · rw [mul_div_cancel_right₀ _ hpos.ne']
    exact .self m

/-- A value has one number. -/
theorem HasValue.unique {x y : Binary64} {v : ℚ} (hx : HasValue x v) (hy : HasValue y v) :
    x = y := by
  obtain ⟨m, e, hx, rfl⟩ := hx
  obtain ⟨n, f, hy, hsame⟩ := hy
  have hm := canonical_of_parts hx
  have hn := canonical_of_parts hy
  rw [hm.bits, hn.bits, hm.nearest.unique (hsame ▸ hn.nearest)]

/-- Numbers are as far apart as the grid of the smaller one is wide. -/
theorem HasValue.succ_le {x y : Binary64} {m : ℕ} {e : ℤ} {w : ℚ}
    (hx : x.parts = .finite false m e) (hy : HasValue y w) (hlt : m * 2 ^ e < w) :
    ((m : ℚ) + 1) * 2 ^ e ≤ w := by
  obtain ⟨n, f, hy, rfl⟩ := hy
  have hef : e ≤ f :=
    (canonical_of_parts hx).nearest.exponent_mono (canonical_of_parts hy).nearest hlt.le
  have hpos := two_zpow_pos e
  have hpow : (n : ℚ) * 2 ^ f = (n * 2 ^ (f - e).toNat : ℕ) * 2 ^ e := by
    rw [show f = e + (f - e).toNat by omega, two_zpow_add]
    push_cast
    rw [show e + ((f - e).toNat : ℤ) - e = (f - e).toNat by omega, Int.toNat_natCast]
    ring
  rw [hpow] at hlt ⊢
  have hless : m < n * 2 ^ (f - e).toNat := by
    exact_mod_cast (mul_lt_mul_iff_left₀ hpos).1 hlt
  exact mul_le_mul_of_nonneg_right (by exact_mod_cast hless) hpos.le

theorem HasValue.nonneg {x : Binary64} {v : ℚ} (h : HasValue x v) : 0 ≤ v := by
  obtain ⟨m, e, -, rfl⟩ := h
  exact mul_nonneg m.cast_nonneg (two_zpow_pos e).le

theorem ratio_pos (m : ℕ) (e : ℤ) : 0 < (ratio m e).2 := by
  cases e with
  | ofNat k => exact Nat.one_pos
  | negSucc k => exact Nat.two_pow_pos _

theorem ratio_value (m : ℕ) (e : ℤ) : ((ratio m e).1 : ℚ) / (ratio m e).2 = m * 2 ^ e := by
  cases e with
  | ofNat k =>
      simp only [ratio, Int.ofNat_eq_natCast, zpow_natCast]
      push_cast
      rw [div_one]
  | negSucc k =>
      simp only [ratio, zpow_negSucc]
      push_cast
      rw [div_eq_mul_inv]

/-- A quotient within the range stands for its nearest point of the grid. -/
theorem hasValue_of_nearest {num den r : ℕ} {q : ℤ} (h : Nearest ((num : ℚ) / den) q r)
    (hmagnitude : magnitudeOfRatio num den = min (magnitude q r) (2047 * 2 ^ 52)) (hq : q ≤ 970) :
    HasValue (ofRatio false num den) (r * 2 ^ q) := by
  have hr := h.le_two_pow
  have hfull : q = -1074 ∨ 2 ^ 52 ≤ r := or_iff_not_imp_left.2 h.two_pow_le
  have hlarge : magnitude q r ≤ 2047 * 2 ^ 52 := by
    unfold magnitude
    omega
  obtain ⟨m, e, hparts, hm⟩ := parts_pack false h.finest hq hr hfull
  exact ⟨m, e, by rw [ofRatio, hmagnitude, min_eq_left hlarge, hparts], hm.symm⟩

/-- A quotient far from the end of the range goes to a value. -/
theorem exists_hasValue {num den : ℕ} (hden : 0 < den)
    (hsmall : (num : ℚ) / den < 2 ^ (1000 : ℤ)) :
    ∃ q r, Nearest ((num : ℚ) / den) q r ∧ HasValue (ofRatio false num den) (r * 2 ^ q) := by
  obtain ⟨q, r, hnearest, hmagnitude⟩ := nearest_magnitudeOfRatio num hden
  have hq : q ≤ 970 := by
    rcases hnearest.tight with hleast | htight
    · omega
    · have := (zpow_lt_zpow_iff_right₀ one_lt_two).1 (htight.trans_lt hsmall)
      omega
  exact ⟨q, r, hnearest, hasValue_of_nearest hnearest hmagnitude hq⟩

/-- A quotient below a power of two is not rounded past it. -/
theorem exists_nearest_le_two_zpow {num den : ℕ} {k : ℤ} (hden : 0 < den)
    (hless : (num : ℚ) / den < 2 ^ k) (hk : -1021 ≤ k) (hk' : k ≤ 1000) :
    ∃ q r, Nearest ((num : ℚ) / den) q r ∧ HasValue (ofRatio false num den) (r * 2 ^ q) ∧
      (r : ℚ) * 2 ^ q ≤ 2 ^ k := by
  obtain ⟨q, r, hnearest, hvalue⟩ :=
    exists_hasValue hden (hless.trans_le (zpow_le_zpow_right₀ one_le_two hk'))
  refine ⟨q, r, hnearest, hvalue, ?_⟩
  have hq : q + 53 ≤ k := by
    rcases hnearest.tight with hleast | htight
    · omega
    · have := (zpow_lt_zpow_iff_right₀ one_lt_two).1 (htight.trans_lt hless)
      omega
  calc (r : ℚ) * 2 ^ q ≤ (2 ^ 53 : ℕ) * 2 ^ q :=
        mul_le_mul_of_nonneg_right (by exact_mod_cast hnearest.le_two_pow) (two_zpow_pos q).le
    _ = 2 ^ (q + 53) := (two_zpow_add q 53).symm
    _ ≤ 2 ^ k := zpow_le_zpow_right₀ one_le_two hq

theorem nearest_ofNat {n : ℕ} (hn : n < 2 ^ 64) :
    ∃ q r, Nearest (n : ℚ) q r ∧ HasValue (Binary64.ofNat n) (r * 2 ^ q) ∧
      (r : ℚ) * 2 ^ q ≤ 2 ^ (64 : ℤ) := by
  have hless : (n : ℚ) / (1 : ℕ) < 2 ^ (64 : ℤ) := by
    rw [Nat.cast_one, div_one]
    exact_mod_cast hn
  obtain ⟨q, r, hnearest, h⟩ :=
    exists_nearest_le_two_zpow Nat.one_pos hless (by omega) (by omega)
  rw [Nat.cast_one, div_one] at hnearest
  exact ⟨q, r, hnearest, h⟩

theorem hasValue_ofRatio {num den r : ℕ} {q : ℤ} (hden : 0 < den) (hr : r ≤ 2 ^ 53)
    (hq : -1074 ≤ q) (hq' : q ≤ 969) (heq : (num : ℚ) / den = r * 2 ^ q) :
    HasValue (ofRatio false num den) (num / den) := by
  obtain ⟨q', r', hnearest, hmagnitude⟩ := nearest_magnitudeOfRatio num hden
  have hvalue : (num : ℚ) / den ≤ 2 ^ (q + 53) := by
    rw [heq, show (q + 53 : ℤ) = q + (53 : ℕ) from rfl, two_zpow_add]
    exact mul_le_mul_of_nonneg_right (by exact_mod_cast hr) (two_zpow_pos q).le
  have hqq : q' ≤ q + 1 := by
    rcases hnearest.tight with hleast | htight
    · omega
    · have hle := (zpow_le_zpow_iff_right₀ one_lt_two).1 (htight.trans hvalue)
      omega
  -- the grid of the quotient has a point there
  have hexact : (r' : ℚ) = num / den / 2 ^ q' := by
    have hpoint : ∃ n : ℕ, (num : ℚ) / den / 2 ^ q' = n := by
      rcases hqq.lt_or_eq with hlt | hnext
      · refine ⟨r * 2 ^ (q - q').toNat, ?_⟩
        rw [heq, mul_div_assoc, ← zpow_sub₀ two_ne_zero]
        push_cast
        rw [← zpow_natCast, Int.toNat_of_nonneg (by omega)]
      · have hfull : (2 : ℚ) ^ (q + 53) = num / den := by
          refine le_antisymm ?_ hvalue
          have htight := hnearest.tight.resolve_left (by omega)
          rwa [show q' + 52 = q + 53 by omega] at htight
        refine ⟨2 ^ 52, ?_⟩
        rw [← hfull, ← zpow_sub₀ two_ne_zero, show q + 53 - q' = (52 : ℕ) by omega, zpow_natCast]
        push_cast
        rfl
    obtain ⟨n, hn⟩ := hpoint
    rw [hn, hnearest.rounds.unique (hn ▸ Rounds.self n)]
  have hvalue' := hasValue_of_nearest hnearest hmagnitude (by omega)
  rwa [hexact, div_mul_cancel₀ _ (two_zpow_pos q').ne'] at hvalue'

theorem hasValue_ofNat {n : ℕ} (hn : n ≤ 2 ^ 53) : HasValue (ofNat n) n := by
  have h : HasValue (ofRatio false n 1) ((n : ℚ) / (1 : ℕ)) :=
    hasValue_ofRatio Nat.one_pos hn (q := 0) (by omega) (by omega) (by simp)
  simpa [ofNat] using h

theorem exists_ratio {v : ℚ} (hv : 0 ≤ v) : ∃ num den : ℕ, 0 < den ∧ (num : ℚ) / den = v := by
  have hnum : ((v.num.toNat : ℕ) : ℚ) = v.num := by
    exact_mod_cast Int.toNat_of_nonneg (Rat.num_nonneg.2 hv)
  exact ⟨v.num.toNat, v.den, v.den_pos, by rw [hnum, v.num_div_den]⟩

theorem ofRatio_congr {negative : Bool} {num den num' den' : ℕ} (hden : 0 < den)
    (hden' : 0 < den') (heq : (num : ℚ) / den = num' / den') :
    ofRatio negative num den = ofRatio negative num' den' := by
  rw [ofRatio, ofRatio, magnitudeOfRatio_congr hden hden' heq]

/-! ### Products and quotients -/

section Arithmetic

variable {x y : Binary64} {v w : ℚ} {num den : ℕ}

theorem mul_eq_ofRatio (hx : HasValue x v) (hy : HasValue y w) (hden : 0 < den)
    (heq : (num : ℚ) / den = v * w) : x.mul y = ofRatio false num den := by
  obtain ⟨m, e, hx, rfl⟩ := hx
  obtain ⟨n, f, hy, rfl⟩ := hy
  simp only [mul, hx, hy, bne_self_eq_false]
  apply ofRatio_congr (ratio_pos _ _) hden
  rw [ratio_value, heq, zpow_add₀ two_ne_zero]
  push_cast
  ring

theorem div_eq_ofRatio (hx : HasValue x v) (hy : HasValue y w) (hw : w ≠ 0) (hden : 0 < den)
    (heq : (num : ℚ) / den = v / w) : x.div y = ofRatio false num den := by
  obtain ⟨m, e, hx, rfl⟩ := hx
  obtain ⟨n, f, hy, rfl⟩ := hy
  have hn : n ≠ 0 := by
    rintro rfl
    simp at hw
  have hn' : (n : ℚ) ≠ 0 := by exact_mod_cast hn
  simp only [div, hx, hy, bne_self_eq_false, if_neg hn]
  apply ofRatio_congr (Nat.mul_pos (ratio_pos _ _) (Nat.pos_of_ne_zero hn)) hden
  rw [Nat.cast_mul, ← div_div, ratio_value, heq, zpow_sub₀ two_ne_zero]
  have hf := (two_zpow_pos f).ne'
  field_simp

end Arithmetic

/-! ### Comparisons -/

theorem units_cast {m : ℕ} {e : ℤ} (he : -1074 ≤ e) :
    ((units false m e : ℤ) : ℚ) = m * 2 ^ e * 2 ^ (1074 : ℕ) := by
  have hpow : (2 : ℚ) ^ e * 2 ^ (1074 : ℕ) = 2 ^ (e + 1074).toNat := by
    rw [← zpow_natCast, ← zpow_natCast, ← zpow_add₀ two_ne_zero, Int.toNat_of_nonneg (by omega)]
    rfl
  simp only [units, Bool.false_eq_true, if_false]
  rw [mul_assoc, hpow]
  push_cast
  rfl

theorem lt_eq_decide {x y : Binary64} {v w : ℚ} (hx : HasValue x v) (hy : HasValue y w) :
    x.lt y = decide (v < w) := by
  obtain ⟨m, e, hx, rfl⟩ := hx
  obtain ⟨n, f, hy, rfl⟩ := hy
  have he := (canonical_of_parts hx).finest
  have hf := (canonical_of_parts hy).finest
  simp only [lt, hx, hy, decide_eq_decide]
  rw [← Int.cast_lt (R := ℚ), units_cast he, units_cast hf]
  exact mul_lt_mul_iff_left₀ (by positivity)

/-- A quotient that is at most a natural number does not go past it. -/
theorem exists_hasValue_le {num den n : ℕ} (hden : 0 < den) (hn : n < 2 ^ 53)
    (hle : (num : ℚ) / den ≤ n) :
    ∃ v, HasValue (ofRatio false num den) v ∧ v ≤ n := by
  obtain ⟨q, r, hnearest, hmagnitude⟩ := nearest_magnitudeOfRatio num hden
  have hq : q ≤ 0 := by
    rcases hnearest.tight with hleast | htight
    · omega
    · have hlt : (2 : ℚ) ^ (q + 52) < 2 ^ (53 : ℤ) := by
        apply (htight.trans hle).trans_lt
        exact_mod_cast hn
      have := (zpow_lt_zpow_iff_right₀ one_lt_two).1 hlt
      omega
  have hgrid : (n : ℚ) / 2 ^ q = (n * 2 ^ (-q).toNat : ℕ) := by
    rw [div_eq_mul_inv, ← zpow_neg]
    push_cast
    rw [← zpow_natCast, Int.toNat_of_nonneg (by omega)]
  have hr : r ≤ n * 2 ^ (-q).toNat := by
    apply hnearest.rounds.mono (.self _)
    rw [← hgrid]
    exact (div_le_div_iff_of_pos_right (two_zpow_pos q)).2 hle
  refine ⟨r * 2 ^ q, hasValue_of_nearest hnearest hmagnitude (by omega), ?_⟩
  rw [← le_div_iff₀ (two_zpow_pos q), hgrid]
  exact_mod_cast hr

end LookupBench.Binary64
