import LookupBench.Number.Shortest
import LookupBench.Proofs.Number.Exact

/-!
# The place of the leading digit

The place is estimated from binary logarithms. Over the exponents that finite numbers have, the
estimate is off by one at most; one by one they are few enough to try.
-/

namespace LookupBench.Decimal

open Binary64

theorem ten_zpow_pos (k : ℤ) : (0 : ℚ) < 10 ^ k := zpow_pos (by norm_num) k

theorem reaches_iff (num : ℕ) {den : ℕ} (hden : 0 < den) (p : ℤ) :
    reaches num den p = true ↔ (10 : ℚ) ^ p ≤ num / den := by
  have hpos : (0 : ℚ) < den := by exact_mod_cast hden
  rw [le_div_iff₀ hpos]
  cases p with
  | ofNat k =>
      have hcast : (10 : ℚ) ^ (Int.ofNat k) * den = (den * 10 ^ k : ℕ) := by
        rw [Int.ofNat_eq_natCast, zpow_natCast]
        push_cast
        ring
      rw [hcast, Nat.cast_le, reaches, decide_eq_true_eq]
  | negSucc k =>
      have hpow : (0 : ℚ) < 10 ^ (k + 1) := by positivity
      rw [zpow_negSucc, inv_mul_le_iff₀ hpow, reaches, decide_eq_true_eq]
      rw [mul_comm]
      exact_mod_cast Iff.rfl

/-! ### Powers of two and of ten -/

/-- The binary logarithm of ten is at most 196 / 59. -/
theorem ten_zpow_le_two_zpow {p q : ℤ} (hq : 0 ≤ q) (h : 196 * p ≤ 59 * q) :
    (10 : ℚ) ^ p ≤ 2 ^ q := by
  have hbase : (10 : ℚ) ^ (59 : ℤ) ≤ 2 ^ (196 : ℤ) := by norm_num
  apply le_of_pow_le_pow_left₀ (n := 196) (by omega) (two_zpow_pos q).le
  calc ((10 : ℚ) ^ p) ^ 196 = 10 ^ (196 * p) := by
        rw [← zpow_natCast, ← zpow_mul, mul_comm]
        rfl
    _ ≤ 10 ^ (59 * q) := zpow_le_zpow_right₀ (by norm_num) h
    _ = (10 ^ (59 : ℤ)) ^ q.toNat := by rw [← zpow_natCast, Int.toNat_of_nonneg hq, zpow_mul]
    _ ≤ (2 ^ (196 : ℤ)) ^ q.toNat := pow_le_pow_left₀ (by positivity) hbase _
    _ = (2 ^ q) ^ 196 := by
        rw [← zpow_natCast, Int.toNat_of_nonneg hq, ← zpow_mul, mul_comm, zpow_mul]
        rfl

/-- The binary logarithm of ten is at least 93 / 28. -/
theorem two_zpow_le_ten_zpow {p q : ℤ} (hq : 0 ≤ q) (h : 28 * q ≤ 93 * p) :
    (2 : ℚ) ^ q ≤ 10 ^ p := by
  have hbase : (2 : ℚ) ^ (93 : ℤ) ≤ 10 ^ (28 : ℤ) := by norm_num
  apply le_of_pow_le_pow_left₀ (n := 93) (by omega) (ten_zpow_pos p).le
  calc ((2 : ℚ) ^ q) ^ 93 = (2 ^ (93 : ℤ)) ^ q.toNat := by
        rw [← zpow_natCast, ← zpow_natCast, Int.toNat_of_nonneg hq, ← zpow_mul, ← zpow_mul, mul_comm]
        rfl
    _ ≤ (10 ^ (28 : ℤ)) ^ q.toNat := pow_le_pow_left₀ (by positivity) hbase _
    _ = 10 ^ (28 * q) := by rw [← zpow_natCast, Int.toNat_of_nonneg hq, ← zpow_mul]
    _ ≤ 10 ^ (93 * p) := zpow_le_zpow_right₀ (by norm_num) h
    _ = (10 ^ p) ^ 93 := by
        rw [← zpow_natCast, ← zpow_mul, mul_comm]
        rfl

def placeEstimate (d : ℤ) : ℤ := (d * 30103).fdiv 100000

/-- Between the powers of two around a quotient, the estimate is off by one at most. -/
theorem placeEstimate_bounds {d : ℤ} (hlow : -1074 ≤ d) (hhigh : d ≤ 1024) :
    (10 : ℚ) ^ (placeEstimate d - 1) ≤ 2 ^ (d - 1) ∧
      (2 : ℚ) ^ (d + 1) ≤ 10 ^ (placeEstimate d + 2) := by
  have hestimate : placeEstimate d = d * 30103 / 100000 :=
    Int.fdiv_eq_ediv_of_nonneg _ (by norm_num)
  rw [hestimate]
  constructor
  · rcases le_or_gt 1 d with hpos | hneg
    · exact ten_zpow_le_two_zpow (by omega) (by omega)
    · rw [← inv_le_inv₀ (two_zpow_pos _) (ten_zpow_pos _), ← zpow_neg, ← zpow_neg]
      exact two_zpow_le_ten_zpow (by omega) (by omega)
  · rcases le_or_gt 0 (d + 1) with hpos | hneg
    · exact two_zpow_le_ten_zpow hpos (by omega)
    · rw [← inv_le_inv₀ (ten_zpow_pos _) (two_zpow_pos _), ← zpow_neg, ← zpow_neg]
      exact ten_zpow_le_two_zpow (by omega) (by omega)

/-- The leading digit of a finite number stands at the place that is found for it. -/
theorem leadingPlace_bounds {num den : ℕ} (hnum : num ≠ 0) (hden : 0 < den)
    (hlow : (2 : ℚ) ^ (-1074 : ℤ) ≤ num / den) (hhigh : (num : ℚ) / den < 2 ^ (1024 : ℤ)) :
    (10 : ℚ) ^ leadingPlace num den ≤ num / den ∧
      (num : ℚ) / den < 10 ^ (leadingPlace num den + 1) := by
  obtain ⟨hbelow, habove⟩ := log2_sub_bounds hnum hden.ne'
  have hd : -1074 ≤ (num.log2 : ℤ) - den.log2 ∧ (num.log2 : ℤ) - den.log2 ≤ 1024 := by
    have h₁ := (zpow_lt_zpow_iff_right₀ one_lt_two).1 (hlow.trans_lt habove)
    have h₂ := (zpow_lt_zpow_iff_right₀ one_lt_two).1 (hbelow.trans_lt hhigh)
    omega
  obtain ⟨hten, htwo⟩ := placeEstimate_bounds hd.1 hd.2
  have hfar : reaches num den (placeEstimate ((num.log2 : ℤ) - den.log2) + 2) = false := by
    rw [← Bool.not_eq_true, reaches_iff num hden, not_le]
    exact habove.trans_le htwo
  have hnear : reaches num den (placeEstimate ((num.log2 : ℤ) - den.log2) - 1) = true := by
    rw [reaches_iff num hden]
    exact hten.trans hbelow
  have hnot : ∀ p, reaches num den p = false → (num : ℚ) / den < 10 ^ p := by
    intro p hp
    rw [← Bool.not_eq_true, reaches_iff num hden, not_le] at hp
    exact hp
  unfold placeEstimate at *
  unfold leadingPlace
  dsimp only
  rw [hfar, if_neg Bool.false_ne_true]
  split
  next hone => exact ⟨(reaches_iff num hden _).1 hone, by simpa [add_assoc] using hnot _ hfar⟩
  next hone =>
    rw [Bool.not_eq_true] at hone
    split
    next hzero => exact ⟨(reaches_iff num hden _).1 hzero, hnot _ hone⟩
    next hzero =>
      rw [Bool.not_eq_true] at hzero
      exact ⟨(reaches_iff num hden _).1 hnear, by simpa using hnot _ hzero⟩

end LookupBench.Decimal
