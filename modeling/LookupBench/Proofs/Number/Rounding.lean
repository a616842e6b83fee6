import LookupBench.Number.Binary64
import Mathlib.Algebra.Order.Field.Basic
import Mathlib.Data.Rat.Cast.Order
import Mathlib.Tactic.FieldSimp
import Mathlib.Tactic.Linarith
import Mathlib.Tactic.Positivity
import Mathlib.Tactic.Ring

/-!
# Rounding to the nearest

What the nearest number to a quotient is, said without the quotient's numerator and denominator: the
quotient is cut to a grid of powers of two on which it takes at most 53 binary digits, and goes to
the nearest point of the grid, from the middle to the even one. A larger quotient never goes to a
smaller number, and a quotient that is on the grid stays where it is.
-/

namespace LookupBench.Binary64

/-! ### To the nearest natural number -/

/-- `r` is nearest to `v`; from the middle between two it is the even one. -/
structure Rounds (v : ℚ) (r : ℕ) : Prop where
  low : (r : ℚ) - 1 / 2 ≤ v
  high : v ≤ r + 1 / 2
  even_of_low : v = r - 1 / 2 → r % 2 = 0
  even_of_high : v = r + 1 / 2 → r % 2 = 0

namespace Rounds

theorem of_lt {v : ℚ} {r : ℕ} (hlow : (r : ℚ) - 1 / 2 < v) (hhigh : v < r + 1 / 2) :
    Rounds v r :=
  ⟨hlow.le, hhigh.le, fun h => absurd h hlow.ne', fun h => absurd h hhigh.ne⟩

theorem self (r : ℕ) : Rounds r r := of_lt (by linarith) (by linarith)

theorem mono {v v' : ℚ} {r r' : ℕ} (h : Rounds v r) (h' : Rounds v' r') (hle : v ≤ v') :
    r ≤ r' := by
  by_contra hlt
  have hsucc : r' + 1 ≤ r := Nat.succ_le_of_lt (Nat.lt_of_not_le hlt)
  have hcast : (r' : ℚ) + 1 ≤ r := by exact_mod_cast hsucc
  have hlow := h.low
  have hhigh := h'.high
  -- the two are neighbours, with both quotients in the middle, so both would be even
  have hv : v = r - 1 / 2 := by linarith
  have hv' : v' = r' + 1 / 2 := by linarith
  have hneighbours : (r : ℚ) = r' + 1 := by linarith
  have hr : r = r' + 1 := by exact_mod_cast hneighbours
  have heven := h.even_of_low hv
  have heven' := h'.even_of_high hv'
  omega

theorem unique {v : ℚ} {r r' : ℕ} (h : Rounds v r) (h' : Rounds v r') : r = r' :=
  Nat.le_antisymm (h.mono h' le_rfl) (h'.mono h le_rfl)

end Rounds

theorem rounds_roundDiv (num : ℕ) {den : ℕ} (hden : 0 < den) :
    Rounds ((num : ℚ) / den) (roundDiv num den) := by
  have hpos : (0 : ℚ) < den := by exact_mod_cast hden
  have hmod := Nat.mod_lt num hden
  have hdiv := Nat.div_add_mod num den
  unfold roundDiv
  generalize num / den = q at *
  generalize num % den = r at *
  have hv : (num : ℚ) / den = q + r / den := by
    rw [← hdiv]
    push_cast
    field_simp
  have hrest : (r : ℚ) / den < 1 := by
    rw [div_lt_one hpos]
    exact_mod_cast hmod
  have hnonneg : (0 : ℚ) ≤ (r : ℚ) / den := by positivity
  rw [hv]
  dsimp only
  split
  next hless =>
    have hlt : (r : ℚ) / den < 1 / 2 := by
      rw [div_lt_div_iff₀ hpos two_pos, mul_comm, one_mul]
      exact_mod_cast hless
    exact .of_lt (by linarith) (by linarith)
  next hless =>
    split
    next hmore =>
      have hgt : 1 / 2 < (r : ℚ) / den := by
        rw [div_lt_div_iff₀ two_pos hpos, mul_comm (r : ℚ), one_mul]
        exact_mod_cast hmore
      exact .of_lt (by push_cast; linarith) (by push_cast; linarith)
    next hmore =>
      have htie : (r : ℚ) / den = 1 / 2 := by
        rw [div_eq_div_iff hpos.ne' two_ne_zero, mul_comm, one_mul]
        exact_mod_cast Nat.le_antisymm (Nat.not_lt.1 hmore) (Nat.not_lt.1 hless)
      rw [htie]
      rcases Nat.mod_two_eq_zero_or_one q with hparity | hparity
      · rw [hparity, Nat.add_zero]
        exact ⟨by linarith, by linarith, fun _ => hparity, fun _ => hparity⟩
      · have heven : (q + 1) % 2 = 0 := by omega
        rw [hparity]
        exact ⟨by push_cast; linarith, by push_cast; linarith, fun _ => heven, fun _ => heven⟩

theorem rounds_roundScaled (num : ℕ) {den : ℕ} (hden : 0 < den) (shift : ℤ) :
    Rounds ((num : ℚ) / den * 2 ^ shift) (roundScaled num den shift) := by
  cases shift with
  | ofNat k =>
      have hv : (num : ℚ) / den * 2 ^ (Int.ofNat k) = ((num * 2 ^ k : ℕ) : ℚ) / den := by
        rw [Int.ofNat_eq_natCast, zpow_natCast]
        push_cast
        ring
      rw [hv]
      exact rounds_roundDiv _ hden
  | negSucc k =>
      have hv : (num : ℚ) / den * 2 ^ (Int.negSucc k) = (num : ℚ) / (den * 2 ^ (k + 1) : ℕ) := by
        rw [zpow_negSucc]
        push_cast
        rw [div_mul_eq_div_div_swap, div_div, mul_comm, div_eq_mul_inv, div_eq_mul_inv]
        ring
      rw [hv]
      exact rounds_roundDiv _ (Nat.mul_pos hden (Nat.two_pow_pos _))

/-! ### To the nearest number -/

/-- On the grid of `2 ^ q`, which is as fine as 53 binary digits allow and no finer than the finest
there is, `r` is nearest to `v`. -/
structure Nearest (v : ℚ) (q : ℤ) (r : ℕ) : Prop where
  finest : -1074 ≤ q
  fits : v < 2 ^ (q + 53)
  tight : q = -1074 ∨ 2 ^ (q + 52) ≤ v
  rounds : Rounds (v / 2 ^ q) r

/-- The magnitude bits of `r * 2 ^ q`. -/
def magnitude (q : ℤ) (r : ℕ) : ℕ := (q + 1074).toNat * 2 ^ 52 + r

theorem two_zpow_pos (q : ℤ) : (0 : ℚ) < 2 ^ q := zpow_pos two_pos q

theorem two_zpow_add (q : ℤ) (k : ℕ) : (2 : ℚ) ^ (q + k) = (2 ^ k : ℕ) * 2 ^ q := by
  rw [zpow_add₀ two_ne_zero, zpow_natCast, mul_comm]
  push_cast
  rfl

namespace Nearest

variable {v v' : ℚ} {q q' : ℤ} {r r' : ℕ}

theorem le_two_pow (h : Nearest v q r) : r ≤ 2 ^ 53 := by
  have hlt : v / 2 ^ q ≤ ((2 ^ 53 : ℕ) : ℚ) := by
    rw [div_le_iff₀ (two_zpow_pos q)]
    exact h.fits.le.trans_eq (two_zpow_add q 53)
  exact h.rounds.mono (.self _) hlt

theorem two_pow_le (h : Nearest v q r) (hq : q ≠ -1074) : 2 ^ 52 ≤ r := by
  have hle : ((2 ^ 52 : ℕ) : ℚ) ≤ v / 2 ^ q := by
    rw [le_div_iff₀ (two_zpow_pos q)]
    exact (two_zpow_add q 52).symm.trans_le (h.tight.resolve_left hq)
  exact (Rounds.self _).mono h.rounds hle

theorem exponent_mono (h : Nearest v q r) (h' : Nearest v' q' r') (hle : v ≤ v') : q ≤ q' := by
  rcases h.tight with rfl | htight
  · exact h'.finest
  · have hlt : (2 : ℚ) ^ (q + 52) < 2 ^ (q' + 53) := htight.trans_lt (hle.trans_lt h'.fits)
    have := (zpow_lt_zpow_iff_right₀ one_lt_two).1 hlt
    omega

/-- A larger quotient does not go to a smaller number. -/
theorem mono (h : Nearest v q r) (h' : Nearest v' q' r') (hle : v ≤ v') :
    magnitude q r ≤ magnitude q' r' := by
  have hfinest := h.finest
  have hfinest' := h'.finest
  have hqq : q ≤ q' := h.exponent_mono h' hle
  unfold magnitude
  rcases hqq.eq_or_lt with rfl | hlt
  · have hr := h.rounds.mono h'.rounds ((div_le_div_iff_of_pos_right (two_zpow_pos q)).2 hle)
    omega
  · have hr := h.le_two_pow
    have hr' := h'.two_pow_le (by omega)
    have hfield : (q + 1074).toNat + 1 ≤ (q' + 1074).toNat := by omega
    have hscaled := Nat.mul_le_mul_right (2 ^ 52) hfield
    omega

theorem value_mono (h : Nearest v q r) (h' : Nearest v' q' r') (hle : v ≤ v') :
    (r : ℚ) * 2 ^ q ≤ r' * 2 ^ q' := by
  have hfinest := h.finest
  rcases (h.exponent_mono h' hle).eq_or_lt with rfl | hlt
  · have hr := h.rounds.mono h'.rounds ((div_le_div_iff_of_pos_right (two_zpow_pos q)).2 hle)
    exact mul_le_mul_of_nonneg_right (by exact_mod_cast hr) (two_zpow_pos q).le
  · calc (r : ℚ) * 2 ^ q ≤ (2 ^ 53 : ℕ) * 2 ^ q :=
          mul_le_mul_of_nonneg_right (by exact_mod_cast h.le_two_pow) (two_zpow_pos q).le
      _ = 2 ^ (q + 53) := (two_zpow_add q 53).symm
      _ ≤ 2 ^ (q' + 52) := zpow_le_zpow_right₀ one_le_two (by omega)
      _ = (2 ^ 52 : ℕ) * 2 ^ q' := two_zpow_add q' 52
      _ ≤ r' * 2 ^ q' := by
          refine mul_le_mul_of_nonneg_right ?_ (two_zpow_pos q').le
          exact_mod_cast h'.two_pow_le (by omega)

theorem unique (h : Nearest v q r) (h' : Nearest v q' r') : magnitude q r = magnitude q' r' :=
  Nat.le_antisymm (h.mono h' le_rfl) (h'.mono h le_rfl)

end Nearest

/-! ### The search for the exponent -/

/-- The test of the search: the quotient has at most 53 binary digits on the grid. -/
def fitsGrid (num den : ℕ) (q : ℤ) : Bool :=
  match q with
  | .ofNat k => num / (den * 2 ^ k) < 2 ^ 53
  | .negSucc k => num * 2 ^ (k + 1) / den < 2 ^ 53

/-- The exponent that the search finds. -/
def gridExponent (num den : ℕ) : ℤ :=
  let estimate : ℤ := (num.log2 : ℤ) - den.log2 - 52
  max (if fitsGrid num den (estimate - 1) then estimate - 1
    else if fitsGrid num den estimate then estimate else estimate + 1) (-1074)

theorem magnitudeOfRatio_eq {num den : ℕ} (hnum : num ≠ 0) (hden : den ≠ 0) :
    magnitudeOfRatio num den
      = min (magnitude (gridExponent num den)
          (roundScaled num den (-gridExponent num den))) (2047 * 2 ^ 52) := by
  unfold magnitudeOfRatio
  rw [if_neg (not_or.2 ⟨hnum, hden⟩)]
  rfl

theorem fitsGrid_iff (num : ℕ) {den : ℕ} (hden : 0 < den) (q : ℤ) :
    fitsGrid num den q = true ↔ (num : ℚ) / den < 2 ^ (q + 53) := by
  have hpos : (0 : ℚ) < den := by exact_mod_cast hden
  have hpow : (2 : ℚ) ^ (q + 53) = (2 ^ 53 : ℕ) * 2 ^ q := two_zpow_add q 53
  rw [div_lt_iff₀ hpos, hpow]
  cases q with
  | ofNat k =>
      have hgrid : ((2 ^ 53 : ℕ) : ℚ) * 2 ^ (Int.ofNat k) * den
          = (2 ^ 53 * (den * 2 ^ k) : ℕ) := by
        rw [Int.ofNat_eq_natCast, zpow_natCast]
        push_cast
        ring
      rw [hgrid, Nat.cast_lt, fitsGrid, decide_eq_true_eq]
      exact Nat.div_lt_iff_lt_mul (Nat.mul_pos hden (Nat.two_pow_pos k))
  | negSucc k =>
      have hgrid : ((2 ^ 53 : ℕ) : ℚ) * 2 ^ (Int.negSucc k) * den
          = (2 ^ 53 * den : ℕ) / (2 ^ (k + 1) : ℕ) := by
        rw [zpow_negSucc]
        push_cast
        ring
      rw [hgrid, lt_div_iff₀ (by positivity), ← Nat.cast_mul, Nat.cast_lt, fitsGrid,
        decide_eq_true_eq]
      exact Nat.div_lt_iff_lt_mul hden

theorem log2_bounds {n : ℕ} (hn : n ≠ 0) :
    (2 : ℚ) ^ (n.log2 : ℤ) ≤ n ∧ (n : ℚ) < 2 ^ ((n.log2 : ℤ) + 1) := by
  constructor
  · rw [zpow_natCast]
    exact_mod_cast Nat.log2_self_le hn
  · have hlt : n < 2 ^ (n.log2 + 1) := Nat.lt_log2_self
    have hcast : (n : ℚ) < 2 ^ (n.log2 + 1) := by exact_mod_cast hlt
    exact_mod_cast hcast

/-- A quotient has as many binary digits as its numerator has more than its denominator, or one
less. -/
theorem log2_sub_bounds {num den : ℕ} (hnum : num ≠ 0) (hden : den ≠ 0) :
    (2 : ℚ) ^ ((num.log2 : ℤ) - den.log2 - 1) ≤ (num : ℚ) / den ∧
      (num : ℚ) / den < 2 ^ ((num.log2 : ℤ) - den.log2 + 1) := by
  obtain ⟨hnlow, hnhigh⟩ := log2_bounds hnum
  obtain ⟨hdlow, hdhigh⟩ := log2_bounds hden
  have hpos : (0 : ℚ) < den := by exact_mod_cast Nat.pos_of_ne_zero hden
  constructor
  · rw [le_div_iff₀ hpos]
    calc (2 : ℚ) ^ ((num.log2 : ℤ) - den.log2 - 1) * den
        ≤ 2 ^ ((num.log2 : ℤ) - den.log2 - 1) * 2 ^ ((den.log2 : ℤ) + 1) :=
          mul_le_mul_of_nonneg_left hdhigh.le (two_zpow_pos _).le
      _ = 2 ^ (num.log2 : ℤ) := by
          rw [← zpow_add₀ two_ne_zero]
          ring_nf
      _ ≤ num := hnlow
  · rw [div_lt_iff₀ hpos]
    calc (num : ℚ) < 2 ^ ((num.log2 : ℤ) + 1) := hnhigh
      _ = 2 ^ ((num.log2 : ℤ) - den.log2 + 1) * 2 ^ (den.log2 : ℤ) := by
          rw [← zpow_add₀ two_ne_zero]
          ring_nf
      _ ≤ 2 ^ ((num.log2 : ℤ) - den.log2 + 1) * den :=
          mul_le_mul_of_nonneg_left hdlow (two_zpow_pos _).le

/-- The exponent is the least for which the quotient fits, or the least of all. -/
theorem gridExponent_bounds {num den : ℕ} (hnum : num ≠ 0) (hden : 0 < den) :
    -1074 ≤ gridExponent num den ∧ (num : ℚ) / den < 2 ^ (gridExponent num den + 53) ∧
      (gridExponent num den = -1074 ∨ (2 : ℚ) ^ (gridExponent num den + 52) ≤ (num : ℚ) / den) := by
  obtain ⟨hlow, hhigh⟩ := log2_sub_bounds hnum hden.ne'
  unfold gridExponent
  set estimate : ℤ := (num.log2 : ℤ) - den.log2 - 52 with hestimate
  have hfits : fitsGrid num den estimate = true := by
    rw [fitsGrid_iff num hden, show estimate + 53 = (num.log2 : ℤ) - den.log2 + 1 by omega]
    exact hhigh
  obtain ⟨q, hq, hbelow, habove⟩ : ∃ q : ℤ,
      (if fitsGrid num den (estimate - 1) then estimate - 1
        else if fitsGrid num den estimate then estimate else estimate + 1) = q ∧
      (num : ℚ) / den < 2 ^ (q + 53) ∧ (2 : ℚ) ^ (q + 52) ≤ (num : ℚ) / den := by
    by_cases hless : fitsGrid num den (estimate - 1) = true
    · refine ⟨estimate - 1, if_pos hless, (fitsGrid_iff num hden _).1 hless, ?_⟩
      rw [show estimate - 1 + 52 = (num.log2 : ℤ) - den.log2 - 1 by omega]
      exact hlow
    · refine ⟨estimate, by rw [if_neg hless, if_pos hfits], (fitsGrid_iff num hden _).1 hfits, ?_⟩
      have hnot := mt (fitsGrid_iff num hden _).2 hless
      rw [not_lt, show estimate - 1 + 53 = estimate + 52 by omega] at hnot
      exact hnot
  simp only [hq]
  refine ⟨le_max_right _ _, hbelow.trans_le (zpow_le_zpow_right₀ one_le_two (by omega)), ?_⟩
  rcases le_or_gt q (-1074) with hle | hlt
  · exact .inl (max_eq_right hle)
  · rw [max_eq_left hlt.le]
    exact .inr habove

/-- The search finds the nearest number, if it is not past the largest. -/
theorem nearest_magnitudeOfRatio (num : ℕ) {den : ℕ} (hden : 0 < den) :
    ∃ q r, Nearest ((num : ℚ) / den) q r ∧
      magnitudeOfRatio num den = min (magnitude q r) (2047 * 2 ^ 52) := by
  by_cases hnum : num = 0
  · subst hnum
    refine ⟨-1074, 0, ⟨le_rfl, ?_, .inl rfl, ?_⟩, ?_⟩
    · rw [Nat.cast_zero, zero_div]
      exact two_zpow_pos _
    · rw [Nat.cast_zero, zero_div, zero_div]
      exact_mod_cast Rounds.self 0
    · simp [magnitudeOfRatio, magnitude]
  · obtain ⟨hfinest, hfits, htight⟩ := gridExponent_bounds hnum hden
    refine ⟨_, _, ⟨hfinest, hfits, htight, ?_⟩, magnitudeOfRatio_eq hnum hden.ne'⟩
    rw [div_eq_mul_inv, ← zpow_neg]
    exact rounds_roundScaled num hden _

/-- Quotients that are equal go to the same number. -/
theorem magnitudeOfRatio_congr {num den num' den' : ℕ} (hden : 0 < den) (hden' : 0 < den')
    (heq : (num : ℚ) / den = num' / den') :
    magnitudeOfRatio num den = magnitudeOfRatio num' den' := by
  obtain ⟨q, r, hnearest, hmagnitude⟩ := nearest_magnitudeOfRatio num hden
  obtain ⟨q', r', hnearest', hmagnitude'⟩ := nearest_magnitudeOfRatio num' hden'
  rw [← heq] at hnearest'
  rw [hmagnitude, hmagnitude', hnearest.unique hnearest']

end LookupBench.Binary64
