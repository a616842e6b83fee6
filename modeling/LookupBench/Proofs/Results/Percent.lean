import LookupBench.Proofs.Number.Exact
import LookupBench.Results.Bucket

/-!
# Percentages

A percentage is the exact quotient, rounded once, and that is at most a hundred by itself: the bound
on it never comes into play. So it is as long as a hundred times the runs are a number without
rounding, that is for 2 ^ 53 / 25 runs, of which no machine can hold the records. Past that a
hundred times the runs can be rounded up, and then the bound takes the error off again where all
runs are counted; everywhere else it still does nothing.
-/

namespace LookupBench

open Binary64

/-- The share of `count` in `runs` without a bound. -/
def share (count runs : Nat) : Binary64 := ((Binary64.ofNat 100).mul (.ofNat count)).div (.ofNat runs)

theorem percent_eq_ite {count runs : Nat} (hruns : runs ≠ 0) :
    percent count runs
      = if (Binary64.ofNat 100).lt (share count runs) then .ofNat 100 else share count runs :=
  if_neg hruns

theorem share_eq_ofRatio {count runs : Nat} (hruns : runs ≠ 0) (hle : count ≤ runs)
    (hsmall : 25 * runs ≤ 2 ^ 53) : share count runs = .ofRatio false (100 * count) runs := by
  have hhundred : HasValue (.ofNat 100) (100 : ℕ) := hasValue_ofNat (by omega)
  have hcount : HasValue (.ofNat count) count := hasValue_ofNat (by omega)
  have hvalue : HasValue (.ofNat runs) runs := hasValue_ofNat (by omega)
  have hproduct : (Binary64.ofNat 100).mul (.ofNat count) = .ofRatio false (100 * count) 1 :=
    mul_eq_ofRatio hhundred hcount Nat.one_pos (by push_cast; ring)
  -- a quarter of the product fits
  have hexact : ((100 * count : ℕ) : ℚ) / (1 : ℕ) = (25 * count : ℕ) * 2 ^ (2 : ℤ) := by
    push_cast
    ring
  have hproductValue := hasValue_ofRatio Nat.one_pos (by omega) (by omega) (by omega) hexact
  rw [share, hproduct]
  apply div_eq_ofRatio hproductValue hvalue (by exact_mod_cast hruns) (Nat.pos_of_ne_zero hruns)
  push_cast
  ring

theorem hundred_lt_ofRatio {num den : ℕ} (hden : 0 < den) (hle : (num : ℚ) / den ≤ (100 : ℕ)) :
    (Binary64.ofNat 100).lt (.ofRatio false num den) = false := by
  have hhundred : HasValue (.ofNat 100) (100 : ℕ) := hasValue_ofNat (by omega)
  obtain ⟨v, hv, hvle⟩ := exists_hasValue_le hden (by omega) hle
  rw [lt_eq_decide hhundred hv, decide_eq_false (not_lt.2 hvle)]

/-- The bound on a percentage never comes into play. -/
theorem percent_eq_share {count runs : Nat} (hruns : runs ≠ 0) (hle : count ≤ runs)
    (hsmall : 25 * runs ≤ 2 ^ 53) : percent count runs = share count runs := by
  have hpos : 0 < runs := Nat.pos_of_ne_zero hruns
  have hquotient : ((100 * count : ℕ) : ℚ) / runs ≤ (100 : ℕ) := by
    rw [div_le_iff₀ (by exact_mod_cast hpos)]
    exact_mod_cast Nat.mul_le_mul_left 100 hle
  rw [percent_eq_ite hruns, share_eq_ofRatio hruns hle hsmall, hundred_lt_ofRatio hpos hquotient,
    if_neg Bool.false_ne_true]

/-! ### Any number of runs -/

/-- A hundred times a number does not go past a hundred times the next number. -/
theorem exists_hundredfold_le {x y : Binary64} {v w : ℚ} (hx : HasValue x v) (hy : HasValue y w)
    (hlt : v < w) (hsmall : v ≤ 2 ^ (64 : ℤ)) :
    ∃ u, HasValue ((Binary64.ofNat 100).mul x) u ∧ u ≤ 100 * w := by
  have hhundred : HasValue (.ofNat 100) (100 : ℕ) := hasValue_ofNat (by omega)
  obtain ⟨num, den, hden, hratio⟩ := exists_ratio (mul_nonneg (100 : ℕ).cast_nonneg hx.nonneg)
  have hbound : (num : ℚ) / den < 2 ^ (1000 : ℤ) := by
    rw [hratio]
    calc ((100 : ℕ) : ℚ) * v ≤ 100 * 2 ^ (64 : ℤ) := by
          push_cast
          linarith
      _ < 2 ^ (71 : ℤ) := by norm_num
      _ ≤ 2 ^ (1000 : ℤ) := zpow_le_zpow_right₀ one_le_two (by omega)
  obtain ⟨q, r, hnearest, hvalue⟩ := exists_hasValue hden hbound
  rw [← mul_eq_ofRatio hhundred hx hden hratio, hratio] at *
  refine ⟨_, hvalue, ?_⟩
  obtain ⟨m, e, hparts, rfl⟩ := hx
  have hcanonical := canonical_of_parts hparts
  have hnext := HasValue.succ_le hparts hy hlt
  -- the grid of the product is at most seven binary places coarser
  have hq : q ≤ e + 7 := by
    rcases hnearest.tight with hleast | htight
    · have := hcanonical.finest
      omega
    · have hfits : ((m : ℕ) : ℚ) ≤ 2 ^ 53 := by exact_mod_cast hcanonical.fits.le
      have hpow : (2 : ℚ) ^ (e + (60 : ℕ)) = (2 ^ 60 : ℕ) * 2 ^ e := two_zpow_add e 60
      have hless : (2 : ℚ) ^ (q + 52) < 2 ^ (e + (60 : ℕ)) := by
        refine htight.trans_lt ?_
        rw [hpow, ← mul_assoc]
        refine mul_lt_mul_of_pos_right ?_ (two_zpow_pos e)
        push_cast
        linarith
      have := (zpow_lt_zpow_iff_right₀ one_lt_two).1 hless
      omega
  have hgrid : (2 : ℚ) ^ q ≤ 128 * 2 ^ e := by
    calc (2 : ℚ) ^ q ≤ 2 ^ (e + (7 : ℕ)) := zpow_le_zpow_right₀ one_le_two hq
      _ = 128 * 2 ^ e := by
          rw [two_zpow_add]
          norm_num
  have hlow := hnearest.rounds.low
  rw [le_div_iff₀ (two_zpow_pos q)] at hlow
  push_cast at hlow
  have hpos := two_zpow_pos e
  linarith

/-- With any number of runs, the bound on a percentage does something only where count and runs are
the same number, and leaves a hundred there. -/
theorem percent_eq_share_or {count runs : Nat} (hruns : runs ≠ 0) (hle : count ≤ runs)
    (hsize : runs < 2 ^ 64) :
    percent count runs = share count runs ∨
      Binary64.ofNat count = .ofNat runs ∧ percent count runs = .ofNat 100 := by
  rw [percent_eq_ite hruns]
  by_cases hsame : Binary64.ofNat count = .ofNat runs
  · split
    · exact .inr ⟨hsame, rfl⟩
    · exact .inl rfl
  left
  apply if_neg
  obtain ⟨q, r, hnearest, hx, hsmall⟩ := nearest_ofNat (hle.trans_lt hsize)
  obtain ⟨q', r', hnearest', hy, -⟩ := nearest_ofNat hsize
  have hmono := hnearest.value_mono hnearest' (by exact_mod_cast hle)
  have hlt : (r : ℚ) * 2 ^ q < r' * 2 ^ q' :=
    lt_of_le_of_ne hmono fun heq => hsame (hx.unique (heq ▸ hy))
  have hpos : (0 : ℚ) < r' * 2 ^ q' := hx.nonneg.trans_lt hlt
  obtain ⟨u, hu, hule⟩ := exists_hundredfold_le hx hy hlt hsmall
  obtain ⟨num, den, hden, hratio⟩ := exists_ratio (div_nonneg hu.nonneg hpos.le)
  have hquotient : (num : ℚ) / den ≤ (100 : ℕ) := by
    rw [hratio, div_le_iff₀ hpos]
    exact_mod_cast hule
  rw [share, div_eq_ofRatio hu hy hpos.ne' hden hratio, hundred_lt_ofRatio hden hquotient]
  exact Bool.false_ne_true

end LookupBench
