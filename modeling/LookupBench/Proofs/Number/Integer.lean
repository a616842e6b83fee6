import LookupBench.Proofs.Number.Finite

/-!
# Integers as binary64 numbers

A finite number is an integer if its significand, moved to the exponent, is one. Such a number is cut
to bounds as the integer is. From `2 ^ 63` on every number of the format is an integer, and rounding
an integer from there on does not lead below.
-/

namespace LookupBench.Binary64

/-- A finite number that is the integer `i`. Both zeros are zero. -/
def IsInteger (x : Binary64) (i : ℤ) : Prop :=
  ∃ negative m e, x.parts = .finite negative m e ∧
    (i : ℚ) = (if negative then -1 else 1) * (m * 2 ^ e)

section Quotients

variable {m n : ℕ} {e : ℤ}

theorem natCast_eq_iff_ratio :
    (n : ℚ) = m * 2 ^ e ↔ (ratio m e).1 % (ratio m e).2 = 0 ∧ (ratio m e).1 / (ratio m e).2 = n := by
  have hden := ratio_pos m e
  have hcast : (0 : ℚ) < (ratio m e).2 := by exact_mod_cast hden
  rw [← ratio_value, eq_div_iff hcast.ne', ← Nat.cast_mul, Nat.cast_inj]
  generalize (ratio m e).1 = num, (ratio m e).2 = den at hden ⊢
  constructor
  · rintro rfl
    exact ⟨Nat.mul_mod_left n den, Nat.mul_div_cancel n hden⟩
  · rintro ⟨hmod, rfl⟩
    exact Nat.div_mul_cancel (Nat.dvd_of_mod_eq_zero hmod)

/-- An integer with a sign is a natural number with that sign. -/
theorem exists_natCast_of_signed {negative : Bool} {i : ℤ}
    (h : (i : ℚ) = (if negative then -1 else 1) * (m * 2 ^ e)) :
    ∃ n : ℕ, (n : ℚ) = m * 2 ^ e ∧ i = if negative then -(n : ℤ) else n := by
  have hnonneg : (0 : ℚ) ≤ m * 2 ^ e := mul_nonneg m.cast_nonneg (two_zpow_pos e).le
  cases negative with
  | false =>
      simp only [Bool.false_eq_true, if_false, one_mul] at h ⊢
      rw [← h] at hnonneg ⊢
      have hi : 0 ≤ i := by exact_mod_cast hnonneg
      exact ⟨i.toNat, by exact_mod_cast Int.toNat_of_nonneg hi, (Int.toNat_of_nonneg hi).symm⟩
  | true =>
      simp only [if_true, neg_one_mul] at h ⊢
      have hneg : (m : ℚ) * 2 ^ e = (-i : ℤ) := by
        rw [Int.cast_neg, h, neg_neg]
      rw [hneg] at hnonneg ⊢
      have hi : 0 ≤ -i := by exact_mod_cast hnonneg
      exact ⟨(-i).toNat, by exact_mod_cast Int.toNat_of_nonneg hi, by omega⟩

end Quotients

variable {x : Binary64} {i : ℤ}

theorem toInt?_eq_some_iff : x.toInt? = some i ↔ x.IsInteger i := by
  unfold toInt?
  constructor
  · intro h
    split at h
    next negative m e hparts =>
      dsimp only at h
      split at h
      next hmod =>
        cases h
        refine ⟨negative, m, e, hparts, ?_⟩
        rw [← natCast_eq_iff_ratio.2 ⟨hmod, rfl⟩]
        generalize (ratio m e).1 / (ratio m e).2 = n
        cases negative <;> simp
      · cases h
    · cases h
  · rintro ⟨negative, m, e, hparts, hvalue⟩
    obtain ⟨n, hn, rfl⟩ := exists_natCast_of_signed hvalue
    obtain ⟨hmod, hdiv⟩ := natCast_eq_iff_ratio.1 hn
    simp only [hparts, hmod, hdiv, if_true]

/-- An integer is cut to bounds as it is. -/
theorem IsInteger.truncateWithin (h : x.IsInteger i) (low high : ℤ) :
    x.truncateWithin low high = max low (min i high) := by
  obtain ⟨negative, m, e, hparts, hvalue⟩ := h
  obtain ⟨n, hn, rfl⟩ := exists_natCast_of_signed hvalue
  obtain ⟨-, hdiv⟩ := natCast_eq_iff_ratio.1 hn
  simp only [Binary64.truncateWithin, hparts, hdiv]

theorem IsInteger.unique {j : ℤ} (hi : x.IsInteger i) (hj : x.IsInteger j) : i = j :=
  Option.some.inj ((toInt?_eq_some_iff.2 hi).symm.trans (toInt?_eq_some_iff.2 hj))

/-- Rounding an integer past signed words gives an integer past them. -/
theorem exists_isInteger_ofNat {n : ℕ} (hlow : 2 ^ 63 ≤ n) (hhigh : n < 2 ^ 64) :
    ∃ k : ℕ, (ofNat n).IsInteger k ∧ 2 ^ 63 ≤ k := by
  obtain ⟨q, r, hnearest, ⟨m, e, hparts, hvalue⟩, -⟩ := nearest_ofNat hhigh
  obtain ⟨q', r', hnearest', hvalue', -⟩ := nearest_ofNat (show 2 ^ 63 < 2 ^ 64 by norm_num)
  -- the power itself is on the grid
  have hpower : HasValue (ofNat (2 ^ 63)) ((2 ^ 63 : ℕ) / (1 : ℕ)) :=
    hasValue_ofRatio Nat.one_pos (r := 2 ^ 52) (q := 11) (by norm_num) (by norm_num) (by norm_num)
      (by norm_num)
  have hmono := hnearest'.value_mono hnearest (by exact_mod_cast hlow)
  rw [hvalue'.value_unique hpower, Nat.cast_one, div_one] at hmono
  have hq : 0 ≤ q := by
    have hless : (2 : ℚ) ^ (63 : ℤ) < 2 ^ (q + 53) := by
      refine lt_of_le_of_lt ?_ hnearest.fits
      exact_mod_cast hlow
    have := (zpow_lt_zpow_iff_right₀ one_lt_two).1 hless
    omega
  have hcast : ((r * 2 ^ q.toNat : ℕ) : ℚ) = r * 2 ^ q := by
    rw [Nat.cast_mul, Nat.cast_pow, Nat.cast_ofNat, ← zpow_natCast, Int.toNat_of_nonneg hq]
  refine ⟨r * 2 ^ q.toNat, ⟨false, m, e, hparts, ?_⟩, ?_⟩
  · rw [Int.cast_natCast, hcast, hvalue]
    simp
  · rw [← hcast] at hmono
    exact_mod_cast hmono

end LookupBench.Binary64
