import LookupBench.Proofs.Number.Finite
import Mathlib.Data.Nat.Cast.Order.Field

/-!
# Orders of binary64 numbers

The total order has a place of its own for each pattern of bits, so a list that it sorts is settled
by what is in the list. The usual comparison leaves NaNs out. Multiplying by what is positive and
cutting the product to an integer both respect it, so a larger factor never gives a smaller integer;
that holds through rounding and overflow, and for infinite factors, since nothing is below zero times
infinity, which is cut to zero.
-/

namespace LookupBench.Binary64

/-! ### The total order -/

theorem orderKey_injective : Function.Injective orderKey := fun x y h => by
  have hx : x.bits.toNat < 2 ^ 64 := x.bits.toNat_lt
  have hy : y.bits.toNat < 2 ^ 64 := y.bits.toNat_lt
  have hbits : x.bits.toNat = y.bits.toNat := by
    unfold orderKey at h
    dsimp only at h
    split at h <;> split at h <;> omega
  cases x
  cases y
  exact congrArg Binary64.mk (UInt64.toNat_inj.1 hbits)

theorem totalLe_iff {x y : Binary64} : x.totalLe y = true ↔ x.orderKey ≤ y.orderKey :=
  decide_eq_true_iff

theorem totalLe_refl (x : Binary64) : x.totalLe x = true := totalLe_iff.2 le_rfl

theorem totalLe_trans (x y z : Binary64) (hxy : x.totalLe y = true) (hyz : y.totalLe z = true) :
    x.totalLe z = true :=
  totalLe_iff.2 ((totalLe_iff.1 hxy).trans (totalLe_iff.1 hyz))

theorem totalLe_total (x y : Binary64) : (x.totalLe y || y.totalLe x) = true := by
  rw [Bool.or_eq_true, totalLe_iff, totalLe_iff]
  exact le_total _ _

theorem totalLe_antisymm {x y : Binary64} (hxy : x.totalLe y = true) (hyx : y.totalLe x = true) :
    x = y :=
  orderKey_injective (le_antisymm (totalLe_iff.1 hxy) (totalLe_iff.1 hyx))

/-! ### Cutting to an integer -/

section Truncate

variable {low high : ℤ}

theorem le_truncateWithin (x : Binary64) (h : low ≤ high) : low ≤ x.truncateWithin low high := by
  unfold truncateWithin
  split
  · exact le_max_left _ _
  · split
    · exact le_rfl
    · exact h
  · exact le_max_left _ _

theorem truncateWithin_le (x : Binary64) (h : low ≤ high) : x.truncateWithin low high ≤ high := by
  unfold truncateWithin
  split
  · exact max_le h (min_le_right _ _)
  · split
    · exact h
    · exact le_rfl
  · exact max_le h (min_le_right _ _)

theorem truncateWithin_nan (h : 0 ≤ high) : nan.truncateWithin 0 high = 0 := by
  have hparts : nan.parts = .nan := by decide
  rw [truncateWithin, hparts]
  simp [h]

/-- What has a minus sign is cut to zero at best. -/
theorem truncateWithin_of_isNegative {x : Binary64} (hx : x.isNegative = true) (h : 0 ≤ high) :
    x.truncateWithin 0 high = 0 := by
  have hsign : x.parts = .nan ∨ x.parts = .infinite true ∨ ∃ m e, x.parts = .finite true m e := by
    unfold parts
    dsimp only
    rw [hx]
    split_ifs
    · exact .inr (.inl rfl)
    · exact .inl rfl
    · exact .inr (.inr ⟨_, _, rfl⟩)
    · exact .inr (.inr ⟨_, _, rfl⟩)
  unfold truncateWithin
  rcases hsign with hparts | hparts | ⟨m, e, hparts⟩ <;> rw [hparts]
  · simp [h]
  · rfl
  · dsimp only
    generalize (ratio m e).1 / (ratio m e).2 = n
    rw [if_pos rfl]
    omega

/-! ### Magnitudes -/

/-- The magnitude bits of infinity. -/
def infiniteBits : ℕ := 2047 * 2 ^ 52

theorem magnitudeOfRatio_le (num den : ℕ) : magnitudeOfRatio num den ≤ infiniteBits := by
  unfold magnitudeOfRatio
  split
  · exact Nat.zero_le _
  · exact min_le_right _ _

theorem magnitudeOfRatio_mono {num den num' den' : ℕ} (hden : 0 < den) (hden' : 0 < den')
    (hle : (num : ℚ) / den ≤ num' / den') :
    magnitudeOfRatio num den ≤ magnitudeOfRatio num' den' := by
  obtain ⟨q, r, hnearest, hmagnitude⟩ := nearest_magnitudeOfRatio num hden
  obtain ⟨q', r', hnearest', hmagnitude'⟩ := nearest_magnitudeOfRatio num' hden'
  rw [hmagnitude, hmagnitude']
  exact min_le_min_right _ (hnearest.mono hnearest' hle)

theorem parts_pack_of_lt {k : ℕ} (hk : k < infiniteBits) :
    ∃ m e, (pack false k).parts = .finite false m e ∧ k = magnitude e m := by
  have hword : k < 2 ^ 63 := hk.trans (by decide)
  obtain ⟨negative, m, e, hparts⟩ := exists_parts_of_isFinite (isFinite_pack false hk)
  obtain ⟨hbits, hfinest, hlargest, hm, -⟩ := canonical_of_parts hparts
  have hmagnitude : magnitude e m < 2 ^ 63 := by
    unfold magnitude
    omega
  have hsign := congrArg isNegative hbits
  rw [isNegative_pack hword, isNegative_pack hmagnitude] at hsign
  subst hsign
  refine ⟨m, e, hparts, ?_⟩
  have hnat := congrArg (·.bits.toNat) hbits
  rw [toNat_pack hword, toNat_pack hmagnitude] at hnat
  exact Nat.add_left_cancel hnat

theorem parts_infinite (negative : Bool) :
    (pack negative infiniteBits).parts = .infinite negative := by
  cases negative <;> decide

/-- Larger bits stand for a larger value. -/
theorem value_le_of_magnitude_le {x y : Binary64} {m n : ℕ} {e f : ℤ}
    (hx : x.parts = .finite false m e) (hy : y.parts = .finite false n f)
    (hle : magnitude e m ≤ magnitude f n) : (m : ℚ) * 2 ^ e ≤ n * 2 ^ f := by
  have hm := canonical_of_parts hx
  have hn := canonical_of_parts hy
  by_contra hlt
  -- then the bits would be the same
  have hback := hn.nearest.mono hm.nearest (not_le.1 hlt).le
  have hsame : x = y := by rw [hm.bits, hn.bits, le_antisymm hle hback]
  subst hsame
  cases hx.symm.trans hy
  exact hlt le_rfl

theorem div_le_div_of_ratio_le {num den num' den' : ℕ} (hden' : 0 < den')
    (hle : (num : ℚ) / den ≤ num' / den') : num / den ≤ num' / den' := by
  have hpos : (0 : ℚ) < den' := by exact_mod_cast hden'
  rw [Nat.le_div_iff_mul_le hden']
  have hfloor : ((num / den : ℕ) : ℚ) ≤ num' / den' := Nat.cast_div_le.trans hle
  rw [le_div_iff₀ hpos] at hfloor
  exact_mod_cast hfloor

theorem truncateWithin_pack_mono {k k' : ℕ} (hle : k ≤ k') (hk' : k' ≤ infiniteBits)
    (h : low ≤ high) :
    (pack false k).truncateWithin low high ≤ (pack false k').truncateWithin low high := by
  rcases Nat.eq_or_lt_of_le hk' with heq | hless
  · have hinfinite : (pack false k').truncateWithin low high = high := by
      rw [heq, truncateWithin, parts_infinite]
      exact if_neg Bool.false_ne_true
    rw [hinfinite]
    exact truncateWithin_le _ h
  · obtain ⟨m, e, hparts, hbits⟩ := parts_pack_of_lt (Nat.lt_of_le_of_lt hle hless)
    obtain ⟨n, f, hparts', hbits'⟩ := parts_pack_of_lt hless
    rw [hbits, hbits'] at hle
    have hvalue := value_le_of_magnitude_le hparts hparts' hle
    rw [← ratio_value, ← ratio_value] at hvalue
    have hquotient := div_le_div_of_ratio_le (ratio_pos n f) hvalue
    unfold truncateWithin
    rw [hparts, hparts']
    dsimp only
    generalize (ratio m e).1 / (ratio m e).2 = i, (ratio n f).1 / (ratio n f).2 = j at hquotient
    rw [if_neg Bool.false_ne_true, if_neg Bool.false_ne_true]
    exact max_le_max_left _ (min_le_min_right _ (by exact_mod_cast hquotient))

end Truncate

/-! ### Products -/

/-- What the parts of a positive number can be. -/
inductive Positive : Parts → Prop where
  | infinite : Positive (.infinite false)
  | finite {m : ℕ} (e : ℤ) (hm : m ≠ 0) : Positive (.finite false m e)

theorem positive_ofNat {n : ℕ} (hn : 0 < n) : Positive (ofNat n).parts := by
  have hone : 0 < magnitudeOfRatio 1 1 := by decide
  have hmono : magnitudeOfRatio 1 1 ≤ magnitudeOfRatio n 1 :=
    magnitudeOfRatio_mono Nat.one_pos Nat.one_pos (by
      rw [Nat.cast_one, div_one, div_one]
      exact_mod_cast hn)
  have hbits : ofNat n = pack false (magnitudeOfRatio n 1) := rfl
  rw [hbits]
  rcases (magnitudeOfRatio_le n 1).eq_or_lt with heq | hless
  · rw [heq, parts_infinite]
    exact .infinite
  · obtain ⟨m, e, hparts, hmagnitude⟩ := parts_pack_of_lt hless
    rw [hparts]
    refine .finite e fun hm => ?_
    subst hm
    have he : e = -1074 := (canonical_of_parts hparts).full.resolve_right (by norm_num)
    rw [he] at hmagnitude
    have hzero : magnitudeOfRatio n 1 = 0 := hmagnitude
    omega

section Product

variable {x q q' : Binary64} {high : ℤ}

/-- The product with something positive has the sign of the other factor, or is no number. -/
theorem mul_positive (hx : Positive x.parts) {negative : Bool}
    (hq : q.parts = .infinite negative ∨ ∃ m e, q.parts = .finite negative m e) :
    x.mul q = nan ∨ ∃ k ≤ infiniteBits, x.mul q = pack negative k := by
  have hinfinite : infinity (false != negative) = pack negative infiniteBits := by
    rw [Bool.false_bne]
    rfl
  generalize hparts : x.parts = parts at hx
  rcases hq with hq | ⟨n, f, hq⟩
  · cases hx with
    | infinite =>
        simp only [mul, hparts, hq, hinfinite]
        exact .inr ⟨_, le_rfl, rfl⟩
    | finite e hm =>
        simp only [mul, hparts, hq, if_neg hm, hinfinite]
        exact .inr ⟨_, le_rfl, rfl⟩
  · cases hx with
    | infinite =>
        simp only [mul, hparts, hq, hinfinite]
        split
        · exact .inl rfl
        · exact .inr ⟨_, le_rfl, rfl⟩
    | finite e hm =>
        simp only [mul, hparts, hq, Bool.false_bne]
        exact .inr ⟨_, magnitudeOfRatio_le _ _, rfl⟩

theorem truncateWithin_mul_of_negative (hx : Positive x.parts)
    (hq : q.parts = .infinite true ∨ ∃ m e, q.parts = .finite true m e) (h : 0 ≤ high) :
    (x.mul q).truncateWithin 0 high = 0 := by
  rcases mul_positive hx hq with hnan | ⟨k, hk, hpack⟩
  · rw [hnan, truncateWithin_nan h]
  · rw [hpack]
    exact truncateWithin_of_isNegative (isNegative_pack (Nat.lt_of_le_of_lt hk (by decide))) h

theorem truncateWithin_mul_infinite (hx : Positive x.parts) (hq : q.parts = .infinite false) :
    (x.mul q).truncateWithin 0 high = high := by
  have hproduct : x.mul q = pack false infiniteBits := by
    generalize hparts : x.parts = parts at hx
    cases hx with
    | infinite =>
        simp only [mul, hparts, hq]
        rfl
    | finite e hm =>
        simp only [mul, hparts, hq, if_neg hm]
        rfl
  rw [hproduct, truncateWithin, parts_infinite]
  exact if_neg Bool.false_ne_true

/-- A larger factor does not give a smaller integer. -/
theorem truncateWithin_mul_finite_mono (hx : Positive x.parts) {m m' : ℕ} {e e' : ℤ}
    (hq : q.parts = .finite false m e) (hq' : q'.parts = .finite false m' e')
    (hle : (m : ℚ) * 2 ^ e ≤ m' * 2 ^ e') (h : 0 ≤ high) :
    (x.mul q).truncateWithin 0 high ≤ (x.mul q').truncateWithin 0 high := by
  generalize hparts : x.parts = parts at hx
  cases hx with
  | infinite =>
      by_cases hm : m = 0
      · have hproduct : x.mul q = nan := by simp only [mul, hparts, hq, if_pos hm]
        rw [hproduct, truncateWithin_nan h]
        exact le_truncateWithin _ h
      · have hm' : m' ≠ 0 := by
          rintro rfl
          have hpos : (0 : ℚ) < m * 2 ^ e :=
            mul_pos (by exact_mod_cast Nat.pos_of_ne_zero hm) (two_zpow_pos e)
          rw [Nat.cast_zero, zero_mul] at hle
          exact absurd hpos (not_lt.2 hle)
        have hproduct : x.mul q = x.mul q' := by
          simp only [mul, hparts, hq, hq', if_neg hm, if_neg hm']
        rw [hproduct]
  | @finite n f hn =>
      simp only [mul, hparts, hq, hq', bne_self_eq_false]
      refine truncateWithin_pack_mono (magnitudeOfRatio_mono (ratio_pos _ _) (ratio_pos _ _) ?_)
        (magnitudeOfRatio_le _ _) h
      rw [ratio_value, ratio_value, zpow_add₀ two_ne_zero, zpow_add₀ two_ne_zero, Nat.cast_mul,
        Nat.cast_mul, mul_mul_mul_comm, mul_mul_mul_comm (n : ℚ) m']
      exact mul_le_mul_of_nonneg_left hle (mul_nonneg n.cast_nonneg (two_zpow_pos f).le)

/-- A number that is not a NaN, by its sign. -/
theorem parts_cases (hq : q.isNaN = false) :
    (q.parts = .infinite true ∨ ∃ m e, q.parts = .finite true m e) ∨
      q.parts = .infinite false ∨ ∃ m e, q.parts = .finite false m e := by
  unfold isNaN at hq
  unfold parts
  dsimp only
  cases q.isNegative
  all_goals
    split_ifs with hfield hfraction hzero
    · simp
    · simp [hfield, hfraction] at hq
    · simp
    · simp

theorem ratio_zero (e : ℤ) : (ratio 0 e).1 = 0 := by
  cases e <;> simp [ratio]

theorem truncateWithin_mul_zero (hx : Positive x.parts) {e : ℤ} (hq : q.parts = .finite false 0 e)
    (h : 0 ≤ high) : (x.mul q).truncateWithin 0 high = 0 := by
  have hproduct : x.mul q = nan ∨ x.mul q = zero false := by
    generalize hparts : x.parts = parts at hx
    cases hx with
    | infinite => exact .inl (by simp only [mul, hparts, hq, if_true])
    | @finite n f hn =>
        refine .inr ?_
        simp only [mul, hparts, hq, bne_self_eq_false, Nat.mul_zero, ratio_zero, ofRatio,
          magnitudeOfRatio, true_or, if_true]
        rfl
  rcases hproduct with hnan | hzero
  · rw [hnan, truncateWithin_nan h]
  · have hparts : (zero false).parts = .finite false 0 (-1074) := by decide
    rw [hzero, truncateWithin, hparts]
    simp [ratio_zero, h]

/-- What is not less than a number without a minus sign has none either, but for zeros. -/
theorem lt_cases (hlt : q'.lt q = false) (hq' : q'.isNaN = false)
    (hq : q.parts = .infinite false ∨ ∃ m e, q.parts = .finite false m e) :
    q'.parts = .infinite false ∨ (∃ e, q.parts = .finite false 0 e) ∨
      ∃ m e m' e', q.parts = .finite false m e ∧ q'.parts = .finite false m' e' ∧
        (m : ℚ) * 2 ^ e ≤ m' * 2 ^ e' := by
  have hcases := parts_cases hq'
  rcases hq with hq | ⟨m, e, hq⟩
  · rcases hcases with (hq' | ⟨m', e', hq'⟩) | hq' | ⟨m', e', hq'⟩
    · simp [lt, hq, hq'] at hlt
    · simp [lt, hq, hq'] at hlt
    · exact .inl hq'
    · simp [lt, hq, hq'] at hlt
  · have he := (canonical_of_parts hq).finest
    rcases hcases with (hq' | ⟨m', e', hq'⟩) | hq' | ⟨m', e', hq'⟩
    · simp [lt, hq, hq'] at hlt
    · -- only a zero is not above a number with a minus sign
      simp only [lt, hq, hq', units, decide_eq_false_iff_not, not_lt, if_true,
        Bool.false_eq_true, if_false] at hlt
      have hzero : m * 2 ^ (e + 1074).toNat = 0 := by omega
      have hm : m = 0 := (Nat.mul_eq_zero.1 hzero).resolve_right (Nat.two_pow_pos _).ne'
      exact .inr (.inl ⟨e, hm ▸ hq⟩)
    · exact .inl hq'
    · have he' := (canonical_of_parts hq').finest
      simp only [lt, hq, hq', decide_eq_false_iff_not, not_lt] at hlt
      rw [← Int.cast_le (R := ℚ), units_cast he, units_cast he'] at hlt
      refine .inr (.inr ⟨m, e, m', e', hq, hq', ?_⟩)
      exact le_of_mul_le_mul_right hlt (by positivity)

/-- Multiplying by what is positive and cutting to an integer respects the usual order. -/
theorem truncateWithin_mul_mono (hx : Positive x.parts) (hq : q.isNaN = false)
    (hq' : q'.isNaN = false) (hlt : q'.lt q = false) (h : 0 ≤ high) :
    (x.mul q).truncateWithin 0 high ≤ (x.mul q').truncateWithin 0 high := by
  rcases parts_cases hq with hneg | hpos
  · rw [truncateWithin_mul_of_negative hx hneg h]
    exact le_truncateWithin _ h
  · rcases lt_cases hlt hq' hpos with hinfinite | ⟨e, hzero⟩ | ⟨m, e, m', e', hm, hm', hle⟩
    · rw [truncateWithin_mul_infinite hx hinfinite]
      exact truncateWithin_le _ h
    · rw [truncateWithin_mul_zero hx hzero h]
      exact le_truncateWithin _ h
    · exact truncateWithin_mul_finite_mono hx hm hm' hle h

end Product

end LookupBench.Binary64
