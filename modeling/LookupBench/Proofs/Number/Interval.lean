import LookupBench.Proofs.Number.Exact

/-!
# The interval of a number

The quotients that go to one number are those up to the middle between it and its neighbours. Below
a power of two the neighbour is half as far away. The ends themselves go there when the significand
is even.
-/

namespace LookupBench.Binary64

/-- Whether the neighbour below is half as far away as the one above. -/
def IsNarrow (m : ℕ) (e : ℤ) : Prop := m = 2 ^ 52 ∧ -1074 < e

instance (m : ℕ) (e : ℤ) : Decidable (IsNarrow m e) := inferInstanceAs (Decidable (_ ∧ _))

def lowEnd (m : ℕ) (e : ℤ) : ℚ := m * 2 ^ e - if IsNarrow m e then 2 ^ e / 4 else 2 ^ e / 2

def highEnd (m : ℕ) (e : ℤ) : ℚ := m * 2 ^ e + 2 ^ e / 2

/-- `v` lies in the interval of `m * 2 ^ e`. -/
structure Within (m : ℕ) (e : ℤ) (v : ℚ) : Prop where
  low : lowEnd m e ≤ v
  high : v ≤ highEnd m e
  inner : m % 2 ≠ 0 → lowEnd m e < v ∧ v < highEnd m e

section

variable {m : ℕ} {e : ℤ} {v : ℚ}

theorem lowEnd_ge (m : ℕ) (e : ℤ) : m * 2 ^ e - 2 ^ e / 2 ≤ lowEnd m e := by
  have hpos := two_zpow_pos e
  unfold lowEnd
  split <;> linarith

theorem lowEnd_pos (hm : 0 < m) : 0 < lowEnd m e := by
  have hpos := two_zpow_pos e
  have hone : (1 : ℚ) ≤ m := by exact_mod_cast hm
  have hprod : (2 : ℚ) ^ e ≤ m * 2 ^ e := le_mul_of_one_le_left hpos.le hone
  have hlow := lowEnd_ge m e
  linarith

theorem Within.rounds (h : Within m e v) : Rounds (v / 2 ^ e) m := by
  have hpos := two_zpow_pos e
  have hlow : (m : ℚ) - 1 / 2 ≤ v / 2 ^ e := by
    rw [le_div_iff₀ hpos]
    have := lowEnd_ge m e
    have := h.low
    linarith
  have hhigh : v / 2 ^ e ≤ m + 1 / 2 := by
    rw [div_le_iff₀ hpos]
    have := h.high
    unfold highEnd at this
    linarith
  refine ⟨hlow, hhigh, fun heq => ?_, fun heq => ?_⟩
  · by_contra hodd
    have hlt := (h.inner hodd).1
    rw [div_eq_iff hpos.ne'] at heq
    have := lowEnd_ge m e
    linarith
  · by_contra hodd
    have hlt := (h.inner hodd).2
    rw [div_eq_iff hpos.ne'] at heq
    unfold highEnd at hlt
    linarith

/-- What lies in the interval of a number goes to it. -/
theorem Within.nearest (h : Within m e v) (hfinest : -1074 ≤ e) (hm : m < 2 ^ 53)
    (hfull : e = -1074 ∨ 2 ^ 52 ≤ m) :
    ∃ q r, Nearest v q r ∧ magnitude q r = magnitude e m := by
  have hpos := two_zpow_pos e
  have hsmall : (m : ℚ) + 1 ≤ 2 ^ 53 := by exact_mod_cast hm
  have hhigh := h.high
  unfold highEnd at hhigh
  by_cases htight : e = -1074 ∨ (2 : ℚ) ^ (e + 52) ≤ v
  · refine ⟨e, m, ⟨hfinest, ?_, htight, h.rounds⟩, rfl⟩
    have hpow : (2 : ℚ) ^ (e + 53) = (2 ^ 53 : ℕ) * 2 ^ e := two_zpow_add e 53
    rw [hpow]
    push_cast
    have hscaled := mul_le_mul_of_nonneg_right hsmall hpos.le
    linarith
  · -- below a power of two, the grid is finer by one
    obtain ⟨hnotLeast, hless⟩ := not_or.1 htight
    rw [not_le] at hless
    have hpow : (2 : ℚ) ^ (e + 52) = (2 ^ 52 : ℕ) * 2 ^ e := two_zpow_add e 52
    have hm52 : m = 2 ^ 52 := by
      by_contra hne
      have hmore : 2 ^ 52 + 1 ≤ m := by
        have := hfull.resolve_left hnotLeast
        omega
      have hcast : (2 : ℚ) ^ 52 + 1 ≤ m := by exact_mod_cast hmore
      have hscaled := mul_le_mul_of_nonneg_right hcast hpos.le
      have hlow := (lowEnd_ge m e).trans h.low
      rw [hpow] at hless
      push_cast at hless
      linarith
    have hnarrow : IsNarrow m e := ⟨hm52, by omega⟩
    have hlow := h.low
    rw [lowEnd, if_pos hnarrow, hm52] at hlow
    have hhalf : (2 : ℚ) ^ (e - 1) = 2 ^ e / 2 := by rw [zpow_sub_one₀ two_ne_zero, div_eq_mul_inv]
    refine ⟨e - 1, 2 ^ 53, ⟨by omega, ?_, .inr ?_, ?_⟩, ?_⟩
    · rw [show e - 1 + 53 = e + 52 by omega]
      exact hless
    · have hpow' : (2 : ℚ) ^ (e - 1 + 52) = (2 ^ 52 : ℕ) * 2 ^ (e - 1) := two_zpow_add (e - 1) 52
      rw [hpow', hhalf]
      push_cast at hlow ⊢
      linarith
    · have hpos' := two_zpow_pos (e - 1)
      rw [hpow] at hless
      refine ⟨?_, ?_, fun _ => rfl, fun _ => rfl⟩
      · rw [le_div_iff₀ hpos', hhalf]
        push_cast at hlow ⊢
        linarith
      · rw [div_le_iff₀ hpos', hhalf]
        push_cast at hless ⊢
        linarith
    · rw [hm52]
      unfold magnitude
      omega

end

/-- Any quotient in the interval of a finite number goes to that number. -/
theorem ofRatio_eq_of_within {x : Binary64} {negative : Bool} {m : ℕ} {e : ℤ}
    (hparts : x.parts = .finite negative m e) {num den : ℕ} (hden : 0 < den)
    (h : Within m e ((num : ℚ) / den)) : ofRatio negative num den = x := by
  obtain ⟨hbits, hfinest, hlargest, hm, hfull⟩ := canonical_of_parts hparts
  obtain ⟨q, r, hnearest, hsame⟩ := h.nearest hfinest hm hfull
  obtain ⟨q', r', hnearest', hmagnitude⟩ := nearest_magnitudeOfRatio num hden
  have hlarge : magnitude e m ≤ 2047 * 2 ^ 52 := by
    unfold magnitude
    omega
  rw [ofRatio, hmagnitude, hnearest'.unique hnearest, hsame, min_eq_left hlarge, ← hbits]

end LookupBench.Binary64
