import LookupBench.Proofs.Number.ReadBack

/-!
# Staying finite

A quotient is rounded to an infinity only from half a last place above the largest number on. So a
sum stays finite as long as each summand is below that half place, however many there are.
-/

namespace LookupBench.Binary64

/-- The largest finite number. -/
def largest : ℚ := (2 ^ 53 - 1) * 2 ^ (971 : ℤ)

/-- Half a last place of the largest number. -/
def halfPlace : ℚ := 2 ^ (970 : ℤ)

theorem halfPlace_pos : 0 < halfPlace := two_zpow_pos 970

/-- A finite number that is `v` but for its sign. -/
def HasSize (x : Binary64) (v : ℚ) : Prop :=
  ∃ negative m e, x.parts = .finite negative m e ∧ v = m * 2 ^ e

theorem isFinite_of_parts {x : Binary64} {negative : Bool} {m : ℕ} {e : ℤ}
    (h : x.parts = .finite negative m e) : x.isFinite = true := by
  rw [isFinite, decide_eq_true_eq]
  intro hfield
  unfold parts at h
  dsimp only at h
  rw [if_pos hfield] at h
  split at h <;> cases h

theorem exists_hasSize {x : Binary64} (h : x.isFinite = true) : ∃ v, HasSize x v := by
  obtain ⟨negative, m, e, hparts⟩ := exists_parts_of_isFinite h
  exact ⟨_, negative, m, e, hparts, rfl⟩

theorem HasValue.hasSize {x : Binary64} {v : ℚ} (h : HasValue x v) : HasSize x v :=
  ⟨false, h⟩

namespace HasSize

variable {x : Binary64} {v : ℚ}

theorem isFinite (h : HasSize x v) : x.isFinite = true := by
  obtain ⟨negative, m, e, hparts, -⟩ := h
  exact isFinite_of_parts hparts

theorem nonneg (h : HasSize x v) : 0 ≤ v := by
  obtain ⟨-, m, e, -, rfl⟩ := h
  exact mul_nonneg m.cast_nonneg (two_zpow_pos e).le

theorem le_largest (h : HasSize x v) : v ≤ largest := by
  obtain ⟨negative, m, e, hparts, rfl⟩ := h
  obtain ⟨-, -, he, hm, -⟩ := canonical_of_parts hparts
  have hm : (m : ℚ) ≤ 2 ^ 53 - 1 := by
    have hm : m + 1 ≤ 2 ^ 53 := hm
    rw [le_sub_iff_add_le]
    exact_mod_cast hm
  exact mul_le_mul hm (zpow_le_zpow_right₀ one_le_two he) (two_zpow_pos e).le (by norm_num)

end HasSize

theorem isFinite_pack (negative : Bool) {k : ℕ} (hk : k < 2047 * 2 ^ 52) :
    (pack negative k).isFinite = true := by
  have hfield : k / 2 ^ 52 < 2047 := Nat.div_lt_of_lt_mul (by omega)
  rw [isFinite, exponentField_pack (by omega), decide_eq_true_eq]
  exact hfield.ne

theorem isFinite_zero (negative : Bool) : (zero negative).isFinite = true :=
  isFinite_pack negative (by norm_num)

/-- A quotient that is closer to the largest number than to the next place is not rounded up. -/
theorem isFinite_ofRatio (negative : Bool) {num den : ℕ} (hden : 0 < den)
    (hsmall : (num : ℚ) / den < largest + halfPlace) :
    (ofRatio negative num den).isFinite = true := by
  obtain ⟨q, r, hnearest, hmagnitude⟩ := nearest_magnitudeOfRatio num hden
  have hbound : largest + halfPlace = (2 ^ 53 - 1 / 2) * 2 ^ (971 : ℤ) := by
    have hpow : (2 : ℚ) ^ (971 : ℤ) = (2 ^ 1 : ℕ) * halfPlace := two_zpow_add 970 1
    rw [largest, hpow, Nat.cast_pow, Nat.cast_ofNat]
    generalize halfPlace = half
    ring
  have hq : q ≤ 971 := by
    rcases hnearest.tight with rfl | htight
    · omega
    · have hlarge : largest + halfPlace < 2 ^ (1024 : ℤ) := by
        have hpow : (2 : ℚ) ^ (1024 : ℤ) = (2 ^ 53 : ℕ) * 2 ^ (971 : ℤ) := two_zpow_add 971 53
        rw [hbound, hpow]
        exact mul_lt_mul_of_pos_right (by norm_num) (two_zpow_pos 971)
      have := (zpow_lt_zpow_iff_right₀ one_lt_two).1 ((htight.trans_lt hsmall).trans hlarge)
      omega
  have hr := hnearest.le_two_pow
  have hfinest := hnearest.finest
  have hk : magnitude q r < 2047 * 2 ^ 52 := by
    rcases hq.lt_or_eq with hless | rfl
    · unfold magnitude
      omega
    · -- on the coarsest grid, nothing is rounded up to the next power of two
      have hlast : r ≤ 2 ^ 53 - 1 := by
        by_contra hmore
        have hr : (2 ^ 53 : ℚ) ≤ r := by exact_mod_cast show 2 ^ 53 ≤ r by omega
        have hlow := hnearest.rounds.low
        rw [le_div_iff₀ (two_zpow_pos 971)] at hlow
        have hle : ((2 : ℚ) ^ 53 - 1 / 2) * 2 ^ (971 : ℤ) ≤ (r - 1 / 2) * 2 ^ (971 : ℤ) :=
          mul_le_mul_of_nonneg_right (sub_le_sub_right hr _) (two_zpow_pos 971).le
        exact absurd (hle.trans hlow) (not_le.2 (hsmall.trans_eq hbound))
      unfold magnitude
      omega
  rw [ofRatio, hmagnitude, min_eq_left hk.le]
  exact isFinite_pack negative hk

theorem isFinite_ofRatio_of_le (negative : Bool) {num den : ℕ} (hden : 0 < den)
    (hsmall : (num : ℚ) / den ≤ largest) : (ofRatio negative num den).isFinite = true :=
  isFinite_ofRatio negative hden (hsmall.trans_lt (lt_add_of_pos_right _ halfPlace_pos))

theorem two_zpow_le_largest {k : ℤ} (hk : k ≤ 971) : (2 : ℚ) ^ k ≤ largest :=
  calc (2 : ℚ) ^ k ≤ 2 ^ (971 : ℤ) := zpow_le_zpow_right₀ one_le_two hk
    _ ≤ largest := le_mul_of_one_le_left (two_zpow_pos 971).le (by norm_num)

theorem isFinite_ofInt {i : ℤ} (h : i.natAbs ≤ 2 ^ 64) : (ofInt i).isFinite = true := by
  refine isFinite_ofRatio_of_le _ Nat.one_pos ?_
  have hle : (i.natAbs : ℚ) ≤ 2 ^ (64 : ℤ) := by exact_mod_cast h
  rw [Nat.cast_one, div_one]
  exact hle.trans (two_zpow_le_largest (by omega))

/-! ### Sums -/

theorem units_natAbs {negative : Bool} {m : ℕ} {e : ℤ} (he : -1074 ≤ e) :
    (((units negative m e).natAbs : ℕ) : ℚ) = m * 2 ^ e * 2 ^ (1074 : ℕ) := by
  rw [← units_cast he]
  cases negative <;> simp [units]

/-- Adding less than half a last place leads no finite number out of range. -/
theorem isFinite_add {x y : Binary64} {w : ℚ} (hx : x.isFinite = true) (hy : HasSize y w)
    (hw : w < halfPlace) : (x.add y).isFinite = true := by
  obtain ⟨v, hx⟩ := exists_hasSize hx
  have hv := hx.le_largest
  obtain ⟨s, m, e, hx, rfl⟩ := hx
  obtain ⟨t, n, f, hy, rfl⟩ := hy
  simp only [add, hx, hy]
  split
  · exact isFinite_zero _
  · refine isFinite_ofRatio _ (by positivity) ?_
    rw [div_lt_iff₀ (by positivity)]
    have habs : ((units s m e + units t n f).natAbs : ℚ)
        ≤ (units s m e).natAbs + (units t n f).natAbs := by
      exact_mod_cast Int.natAbs_add_le _ _
    rw [units_natAbs (canonical_of_parts hx).finest, units_natAbs (canonical_of_parts hy).finest,
      ← add_mul] at habs
    rw [Nat.cast_pow, Nat.cast_ofNat]
    refine habs.trans_lt ?_
    exact mul_lt_mul_of_pos_right (by linarith) (by positivity)

/-! ### Quotients -/

/-- Dividing by one or more leads no finite number out of range. -/
theorem isFinite_div {x y : Binary64} {w : ℚ} (hx : x.isFinite = true) (hy : HasValue y w)
    (hw : 1 ≤ w) : (x.div y).isFinite = true := by
  obtain ⟨v, hx⟩ := exists_hasSize hx
  have hv := hx.le_largest
  have hnonneg := hx.nonneg
  obtain ⟨s, m, e, hx, rfl⟩ := hx
  obtain ⟨n, f, hy, rfl⟩ := hy
  have hn : n ≠ 0 := by
    rintro rfl
    rw [Nat.cast_zero, zero_mul] at hw
    exact absurd hw (by norm_num)
  simp only [div, hx, hy, if_neg hn]
  refine isFinite_ofRatio_of_le _ (Nat.mul_pos (ratio_pos m (e - f)) (Nat.pos_of_ne_zero hn)) ?_
  push_cast
  rw [div_mul_eq_div_div, ratio_value, zpow_sub₀ two_ne_zero]
  calc (m : ℚ) * (2 ^ e / 2 ^ f) / n = m * 2 ^ e / (n * 2 ^ f) := by field_simp
    _ ≤ m * 2 ^ e := div_le_self hnonneg hw
    _ ≤ largest := hv

/-! ### Bounds on results -/

section Bounds

variable {x y : Binary64} {v w : ℚ} {num den : ℕ} {k : ℤ}

theorem exists_hasValue_le_two_zpow (hden : 0 < den) (hless : (num : ℚ) / den < 2 ^ k)
    (hk : -1021 ≤ k) (hk' : k ≤ 1000) : ∃ u, HasValue (ofRatio false num den) u ∧ u ≤ 2 ^ k := by
  obtain ⟨q, r, -, h⟩ := exists_nearest_le_two_zpow hden hless hk hk'
  exact ⟨_, h⟩

theorem exists_hasValue_mul (hx : HasValue x v) (hy : HasValue y w) (hless : v * w < 2 ^ k)
    (hk : -1021 ≤ k) (hk' : k ≤ 1000) : ∃ u, HasValue (x.mul y) u ∧ u ≤ 2 ^ k := by
  obtain ⟨num, den, hden, hratio⟩ := exists_ratio (mul_nonneg hx.nonneg hy.nonneg)
  rw [mul_eq_ofRatio hx hy hden hratio]
  exact exists_hasValue_le_two_zpow hden (hratio.trans_lt hless) hk hk'

theorem exists_hasValue_div (hx : HasValue x v) (hy : HasValue y w) (hw : w ≠ 0)
    (hless : v / w < 2 ^ k) (hk : -1021 ≤ k) (hk' : k ≤ 1000) :
    ∃ u, HasValue (x.div y) u ∧ u ≤ 2 ^ k := by
  obtain ⟨num, den, hden, hratio⟩ := exists_ratio (div_nonneg hx.nonneg hy.nonneg)
  rw [div_eq_ofRatio hx hy hw hden hratio]
  exact exists_hasValue_le_two_zpow hden (hratio.trans_lt hless) hk hk'

theorem exists_hasValue_add (hx : HasValue x v) (hy : HasValue y w) (hless : v + w < 2 ^ k)
    (hk : -1021 ≤ k) (hk' : k ≤ 1000) : ∃ u, HasValue (x.add y) u ∧ u ≤ 2 ^ k := by
  have hvalues := add_nonneg hx.nonneg hy.nonneg
  obtain ⟨m, e, hx, rfl⟩ := hx
  obtain ⟨n, f, hy, rfl⟩ := hy
  have he := (canonical_of_parts hx).finest
  have hf := (canonical_of_parts hy).finest
  have hsum : ((units false m e + units false n f : ℤ) : ℚ)
      = (m * 2 ^ e + n * 2 ^ f) * 2 ^ (1074 : ℕ) := by
    rw [Int.cast_add, units_cast he, units_cast hf, add_mul]
  have hpower : (0 : ℚ) < 2 ^ (1074 : ℕ) := pow_pos two_pos _
  have hnonneg : 0 ≤ units false m e + units false n f := by
    have hcast := hsum.symm ▸ mul_nonneg hvalues hpower.le
    exact_mod_cast hcast
  simp only [add, hx, hy]
  split
  · exact ⟨0, ⟨0, -1074, by decide, by simp⟩, (two_zpow_pos k).le⟩
  · rw [decide_eq_false (not_lt.2 hnonneg)]
    refine exists_hasValue_le_two_zpow (by positivity) ?_ hk hk'
    have habs : ((units false m e + units false n f).natAbs : ℚ)
        = (m * 2 ^ e + n * 2 ^ f) * 2 ^ (1074 : ℕ) := by
      rw [← hsum, Nat.cast_natAbs, abs_of_nonneg hnonneg]
    rw [habs, Nat.cast_pow, Nat.cast_ofNat, mul_div_cancel_right₀ _ hpower.ne']
    exact hless

end Bounds

theorem HasValue.value_unique {x : Binary64} {v w : ℚ} (hx : HasValue x v) (hy : HasValue x w) :
    v = w := by
  obtain ⟨m, e, hx, rfl⟩ := hx
  obtain ⟨n, f, hy, rfl⟩ := hy
  cases hx.symm.trans hy
  rfl

theorem exists_hasValue_ofNat_pos {n : ℕ} (hpos : 0 < n) (hn : n < 2 ^ 64) :
    ∃ v, HasValue (ofNat n) v ∧ 1 ≤ v := by
  obtain ⟨q, r, hnearest, hvalue, -⟩ := nearest_ofNat hn
  obtain ⟨q', r', hnearest', hvalue', -⟩ := nearest_ofNat (show 1 < 2 ^ 64 by norm_num)
  have hmono := hnearest'.value_mono hnearest (by exact_mod_cast hpos)
  have hone : HasValue (ofNat 1) (1 : ℕ) := hasValue_ofNat (by norm_num)
  refine ⟨_, hvalue, ?_⟩
  rwa [hvalue'.value_unique hone, Nat.cast_one] at hmono

end LookupBench.Binary64
