import LookupBench.Number.Duration
import LookupBench.Proofs.Number.ReadBack

/-!
# Durations from seconds

Which numbers of seconds are spans of time at all, and which of these are more than nothing: those
below `2 ^ 64`, and those of more than half a nanosecond.
-/

namespace LookupBench

namespace Binary64

theorem Rounds.eq_zero_iff {v : ℚ} {r : ℕ} (h : Rounds v r) : r = 0 ↔ v ≤ 1 / 2 := by
  have hlow := h.low
  have hhigh := h.high
  constructor
  · rintro rfl
    simpa using hhigh
  · intro hle
    have hr : (r : ℚ) ≤ 1 := by linarith
    have hone : r ≤ 1 := by exact_mod_cast hr
    rcases Nat.le_one_iff_eq_zero_or_eq_one.1 hone with hzero | rfl
    · exact hzero
    · -- one is odd, so the middle below it does not go there
      have hodd := h.even_of_low (by push_cast at hlow ⊢; linarith)
      omega

/-- A finite number above zero stands for its value. -/
theorem exists_hasValue_pos {x : Binary64} (hfinite : x.isFinite = true)
    (hpos : (zero false).lt x = true) : ∃ v, HasValue x v ∧ 0 < v := by
  obtain ⟨negative, m, e, hparts⟩ := exists_parts_of_isFinite hfinite
  have hzero : (zero false).parts = .finite false 0 (-1074) := by decide
  simp only [lt, hzero, hparts, decide_eq_true_eq] at hpos
  have hunits : units false 0 (-1074) = 0 := by simp [units]
  rw [hunits] at hpos
  cases negative with
  | true =>
      simp only [units, if_true] at hpos
      omega
  | false =>
      have hm : m ≠ 0 := by
        rintro rfl
        simp [units] at hpos
      refine ⟨m * 2 ^ e, ⟨m, e, hparts, rfl⟩, mul_pos ?_ (two_zpow_pos e)⟩
      exact_mod_cast Nat.pos_of_ne_zero hm

end Binary64

namespace Duration

open Binary64

variable {x : Binary64} {v : ℚ}

/-- More seconds than that are refused, and all others go to the nearest nanosecond. -/
theorem ofSeconds_cases (h : HasValue x v) :
    (2 ^ 64 ≤ v ∧ ofSeconds x = .error .tooBig) ∨
      v < 2 ^ 64 ∧ ∃ n, ofSeconds x = .ok ⟨n⟩ ∧ Rounds (v * perSecond) n := by
  obtain ⟨m, e, hparts, rfl⟩ := h
  have hden : (0 : ℚ) < (ratio m e).2 := by exact_mod_cast ratio_pos m e
  have hvalue := ratio_value m e
  have hsize : 2 ^ 64 * (ratio m e).2 ≤ (ratio m e).1 ↔ (2 : ℚ) ^ 64 ≤ m * 2 ^ e := by
    rw [← hvalue, le_div_iff₀ hden]
    exact_mod_cast Iff.rfl
  have heq : ofSeconds x = if 2 ^ 64 * (ratio m e).2 ≤ (ratio m e).1 then .error .tooBig
      else .ok ⟨roundDiv ((ratio m e).1 * perSecond) (ratio m e).2⟩ := by
    simp only [ofSeconds, hparts, Bool.false_and, Bool.false_eq_true, if_false]
  rw [heq]
  by_cases hbig : 2 ^ 64 * (ratio m e).2 ≤ (ratio m e).1
  · exact .inl ⟨hsize.1 hbig, if_pos hbig⟩
  · refine .inr ⟨lt_of_not_ge (mt hsize.2 hbig), _, if_neg hbig, ?_⟩
    have hrounds := rounds_roundDiv ((ratio m e).1 * perSecond) (ratio_pos m e)
    rwa [Nat.cast_mul, mul_div_right_comm, hvalue] at hrounds

end Duration

end LookupBench
