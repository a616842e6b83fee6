import LookupBench.Proofs.Number.Interval
import LookupBench.Proofs.Number.Place

/-!
# Reading a decimal back

A decimal in the interval of a finite number is read as that number. The exponents that are settled
without writing them out lie outside the range of the format.
-/

namespace LookupBench.Binary64

open Decimal

theorem exists_parts_of_isFinite {x : Binary64} (h : x.isFinite = true) :
    ∃ negative m e, x.parts = .finite negative m e := by
  have hfield : x.exponentField ≠ 2047 := of_decide_eq_true h
  unfold parts
  dsimp only
  rw [if_neg hfield]
  split
  · exact ⟨_, _, _, rfl⟩
  · exact ⟨_, _, _, rfl⟩

theorem eq_zero_of_parts {x : Binary64} {negative : Bool} {e : ℤ}
    (h : x.parts = .finite negative 0 e) : x = zero negative := by
  obtain ⟨hbits, -, -, -, hfull⟩ := canonical_of_parts h
  have he : e = -1074 := hfull.resolve_right (by norm_num)
  rw [hbits, he]
  rfl

section

variable {m : ℕ} {e : ℤ} {v : ℚ}

theorem Within.lt_two_zpow (h : Within m e v) (hm : m < 2 ^ 53) (he : e ≤ 971) :
    v < 2 ^ (1024 : ℤ) := by
  have hpos := two_zpow_pos e
  have hsmall : (m : ℚ) + 1 ≤ 2 ^ 53 := by exact_mod_cast hm
  have hhigh := h.high
  unfold highEnd at hhigh
  calc v ≤ m * 2 ^ e + 2 ^ e / 2 := hhigh
    _ < (m + 1) * 2 ^ e := by linarith
    _ ≤ 2 ^ 53 * 2 ^ e := mul_le_mul_of_nonneg_right hsmall hpos.le
    _ = 2 ^ (e + 53) := by
        rw [show (e + 53 : ℤ) = e + (53 : ℕ) from rfl, two_zpow_add]
        push_cast
        ring
    _ ≤ 2 ^ (1024 : ℤ) := zpow_le_zpow_right₀ one_le_two (by omega)

theorem Within.two_zpow_le (h : Within m e v) (hm : 0 < m) (he : -1074 ≤ e) :
    (2 : ℚ) ^ (-1075 : ℤ) ≤ v := by
  have hpos := two_zpow_pos e
  have hone : (1 : ℚ) ≤ m := by exact_mod_cast hm
  have hscaled : (2 : ℚ) ^ e ≤ m * 2 ^ e := le_mul_of_one_le_left hpos.le hone
  have hlow := (lowEnd_ge m e).trans h.low
  calc (2 : ℚ) ^ (-1075 : ℤ) ≤ 2 ^ (e - 1) := zpow_le_zpow_right₀ one_le_two (by omega)
    _ = 2 ^ e / 2 := by rw [zpow_sub_one₀ two_ne_zero, div_eq_mul_inv]
    _ ≤ v := by linarith

end

/-- The place that is compared with the range of the format is off by two at most. -/
theorem place_bounds {n : ℕ} (hn : n ≠ 0) (hsmall : n < 10 ^ 18) (k : ℤ) :
    (10 : ℚ) ^ ((n.log2 : ℤ) * 30103 / 100000 + k - 1) ≤ n * 10 ^ k ∧
      (n : ℚ) * 10 ^ k ≤ 10 ^ ((n.log2 : ℤ) * 30103 / 100000 + k + 2) := by
  have hlog : n.log2 < 60 :=
    (Nat.log2_lt hn).2 (hsmall.trans (show 10 ^ 18 < 2 ^ 60 by norm_num))
  have hbelow : (2 : ℚ) ^ (n.log2 : ℤ) ≤ n := by
    rw [zpow_natCast]
    exact_mod_cast Nat.log2_self_le hn
  have habove : (n : ℚ) ≤ 2 ^ ((n.log2 : ℤ) + 1) := by
    rw [show (n.log2 : ℤ) + 1 = (n.log2 + 1 : ℕ) from rfl, zpow_natCast]
    exact_mod_cast Nat.lt_log2_self.le
  have hk := (ten_zpow_pos k).le
  constructor
  · rw [add_sub_right_comm, zpow_add₀ (by norm_num)]
    exact mul_le_mul_of_nonneg_right
      ((ten_zpow_le_two_zpow (by omega) (by omega)).trans hbelow) hk
  · rw [add_right_comm, zpow_add₀ (by norm_num)]
    exact mul_le_mul_of_nonneg_right
      (habove.trans (two_zpow_le_ten_zpow (by omega) (by omega))) hk

theorem Within.exponent_bounds {m n : ℕ} {e k : ℤ} (h : Within m e (n * 10 ^ k)) (hm : 0 < m)
    (hfits : m < 2 ^ 53) (hfinest : -1074 ≤ e) (hlargest : e ≤ 971) (hn : 0 < n)
    (hsmall : n ≤ 10 ^ 17) : -400 < k ∧ k < 400 := by
  have hhigh := h.lt_two_zpow hfits hlargest
  have hlow := h.two_zpow_le hm hfinest
  have hk := ten_zpow_pos k
  have hone : (1 : ℚ) ≤ n := by exact_mod_cast hn
  have hlarge : (n : ℚ) ≤ 10 ^ (17 : ℤ) := by exact_mod_cast hsmall
  constructor
  · have hten : (10 : ℚ) ^ (-324 : ℤ) ≤ 2 ^ (-1075 : ℤ) := by
      rw [zpow_neg, zpow_neg, inv_le_inv₀ (ten_zpow_pos _) (two_zpow_pos _)]
      exact two_zpow_le_ten_zpow (by omega) (by omega)
    have hpow : (10 : ℚ) ^ (-324 : ℤ) ≤ 10 ^ (17 + k) := by
      rw [zpow_add₀ (by norm_num)]
      exact hten.trans (hlow.trans (mul_le_mul_of_nonneg_right hlarge hk.le))
    have := (zpow_le_zpow_iff_right₀ (by norm_num)).1 hpow
    omega
  · have hpow : (10 : ℚ) ^ k < 10 ^ (309 : ℤ) :=
      calc (10 : ℚ) ^ k ≤ n * 10 ^ k := le_mul_of_one_le_left hk.le hone
        _ < 2 ^ (1024 : ℤ) := hhigh
        _ ≤ 10 ^ (309 : ℤ) := two_zpow_le_ten_zpow (by omega) (by omega)
    have := (zpow_lt_zpow_iff_right₀ (by norm_num)).1 hpow
    omega

/-- A decimal that lies in the interval of a number is read as that number. -/
theorem ofDecimal_eq_of_within {x : Binary64} {negative : Bool} {m n : ℕ} {e k : ℤ}
    (hparts : x.parts = .finite negative m e) (hm : 0 < m) (hsmall : n < 10 ^ 18)
    (h : Within m e (n * 10 ^ k)) : ofDecimal negative n k = x := by
  obtain ⟨-, hfinest, hlargest, hfits, -⟩ := canonical_of_parts hparts
  have hhigh := h.lt_two_zpow hfits hlargest
  have hlow := h.two_zpow_le hm hfinest
  have hn : n ≠ 0 := by
    rintro rfl
    rw [Nat.cast_zero, zero_mul] at hlow
    exact absurd (two_zpow_pos _) (not_lt.2 hlow)
  obtain ⟨hfrom, hto⟩ := place_bounds hn hsmall k
  have hnotLarge : ¬320 < (n.log2 : ℤ) * 30103 / 100000 + k := by
    intro hlarge
    have hrange : (2 : ℚ) ^ (1024 : ℤ) ≤ 10 ^ ((n.log2 : ℤ) * 30103 / 100000 + k - 1) :=
      two_zpow_le_ten_zpow (by omega) (by omega)
    exact absurd hhigh (not_lt.2 (hrange.trans hfrom))
  have hnotSmall : ¬(n.log2 : ℤ) * 30103 / 100000 + k < -400 := by
    intro htiny
    have hrange : (2 : ℚ) ^ (1076 : ℤ) ≤ 10 ^ (-((n.log2 : ℤ) * 30103 / 100000 + k + 2)) :=
      two_zpow_le_ten_zpow (by omega) (by omega)
    rw [zpow_neg, le_inv_comm₀ (two_zpow_pos _) (ten_zpow_pos _), ← zpow_neg] at hrange
    have hhalf : (2 : ℚ) ^ (-1076 : ℤ) < 2 ^ (-1075 : ℤ) :=
      zpow_lt_zpow_right₀ one_lt_two (by omega)
    exact absurd hhalf (not_lt.2 (hlow.trans (hto.trans hrange)))
  unfold ofDecimal
  dsimp only
  rw [if_neg hn, if_neg hnotLarge, if_neg hnotSmall]
  cases k with
  | ofNat j =>
      apply ofRatio_eq_of_within hparts Nat.one_pos
      rw [Int.ofNat_eq_natCast, zpow_natCast] at h
      simpa using h
  | negSucc j =>
      apply ofRatio_eq_of_within hparts (Nat.pow_pos (by omega))
      rw [zpow_negSucc, ← div_eq_mul_inv] at h
      simpa using h

end LookupBench.Binary64
