import LookupBench.Proofs.Number.Interval
import LookupBench.Proofs.Number.Place

/-!
# The digits that are found

The search for the shortest digits ends with some that lie in the interval of the number, at the
latest with seventeen of them: a grid of that many digits is finer than the interval is wide. So
reading them gives the number back.
-/

namespace LookupBench.Decimal

open Binary64

/-- The value of a decimal. -/
def value (d : Decimal) : ℚ := d.digits * 10 ^ d.exponent

/-! ### Grids of powers of ten -/

theorem onGrid_pos (num : ℕ) {den : ℕ} (hden : 0 < den) (k : ℤ) : 0 < (onGrid num den k).2 := by
  cases k with
  | ofNat j => exact Nat.mul_pos hden (Nat.pow_pos (by omega))
  | negSucc j => exact hden

theorem onGrid_unit (num num' den : ℕ) (k : ℤ) : (onGrid num den k).2 = (onGrid num' den k).2 := by
  cases k <;> rfl

theorem onGrid_value (num : ℕ) (den : ℕ) (k : ℤ) :
    ((onGrid num den k).1 : ℚ) / (onGrid num den k).2 = num / den / 10 ^ k := by
  cases k with
  | ofNat j =>
      simp only [onGrid, Int.ofNat_eq_natCast, zpow_natCast]
      push_cast
      rw [div_div]
  | negSucc j =>
      simp only [onGrid, zpow_negSucc]
      push_cast
      rw [div_inv_eq_mul, div_mul_eq_mul_div]

section Comparisons

variable (num : ℕ) {den : ℕ} (hden : 0 < den) (k : ℤ) (n : ℕ)

include hden

theorem onGrid_le_iff :
    (onGrid num den k).1 ≤ n * (onGrid num den k).2 ↔ (num : ℚ) / den ≤ n * 10 ^ k := by
  have hunit : (0 : ℚ) < (onGrid num den k).2 := by exact_mod_cast onGrid_pos num hden k
  rw [← div_le_iff₀ (ten_zpow_pos k), ← onGrid_value, div_le_iff₀ hunit]
  exact_mod_cast Iff.rfl

theorem le_onGrid_iff :
    n * (onGrid num den k).2 ≤ (onGrid num den k).1 ↔ (n : ℚ) * 10 ^ k ≤ num / den := by
  have hunit : (0 : ℚ) < (onGrid num den k).2 := by exact_mod_cast onGrid_pos num hden k
  rw [← le_div_iff₀ (ten_zpow_pos k), ← onGrid_value, le_div_iff₀ hunit]
  exact_mod_cast Iff.rfl

theorem onGrid_lt_iff :
    (onGrid num den k).1 < n * (onGrid num den k).2 ↔ (num : ℚ) / den < n * 10 ^ k := by
  rw [← not_le, ← not_le, le_onGrid_iff num hden]

theorem lt_onGrid_iff :
    n * (onGrid num den k).2 < (onGrid num den k).1 ↔ (n : ℚ) * 10 ^ k < num / den := by
  rw [← not_le, ← not_le, onGrid_le_iff num hden]

end Comparisons

/-! ### Between the ends -/

/-- Whether `w` lies between two ends, which count as well or do not. -/
def Between (low high : ℚ) (closed : Bool) (w : ℚ) : Prop :=
  if closed then low ≤ w ∧ w ≤ high else low < w ∧ w < high

/-- The test of the search at `n * 10 ^ k`. -/
def inside (low value high den : ℕ) (closed : Bool) (k : ℤ) (n : ℕ) : Bool :=
  let unit := (onGrid value den k).2
  if closed then (onGrid low den k).1 ≤ n * unit && n * unit ≤ (onGrid high den k).1
  else (onGrid low den k).1 < n * unit && n * unit < (onGrid high den k).1

theorem inside_iff (low value high : ℕ) {den : ℕ} (hden : 0 < den) (closed : Bool) (k : ℤ)
    (n : ℕ) : inside low value high den closed k n = true
      ↔ Between (low / den) (high / den) closed (n * 10 ^ k) := by
  have hlow := onGrid_unit value low den k
  have hhigh := onGrid_unit value high den k
  cases closed
  · simp only [inside, Between, Bool.false_eq_true, if_false, Bool.and_eq_true, decide_eq_true_eq]
    exact and_congr (hlow ▸ onGrid_lt_iff low hden k n) (hhigh ▸ lt_onGrid_iff high hden k n)
  · simp only [inside, Between, if_true, Bool.and_eq_true, decide_eq_true_eq]
    exact and_congr (hlow ▸ onGrid_le_iff low hden k n) (hhigh ▸ le_onGrid_iff high hden k n)

/-! ### The search -/

section Search

variable (low value high : ℕ) {den : ℕ} (closed : Bool) (place : ℤ)

/-- The point of the grid below the value. -/
def floorOn (value den : ℕ) (k : ℤ) : ℕ := (onGrid value den k).1 / (onGrid value den k).2

theorem floorOn_bounds (hden : 0 < den) (k : ℤ) :
    (floorOn value den k : ℚ) * 10 ^ k ≤ value / den ∧
      (value : ℚ) / den < (floorOn value den k + 1 : ℕ) * 10 ^ k := by
  have hunit := onGrid_pos value hden k
  constructor
  · rw [← le_onGrid_iff value hden]
    exact Nat.div_mul_le_self _ _
  · rw [← onGrid_lt_iff value hden]
    exact Nat.lt_mul_of_div_lt (Nat.lt_succ_self _) hunit

/-- The search takes one of the two neighbours on a grid if one of them is inside. -/
theorem search_succ (count fuel : ℕ) :
    (∃ n, search low value high den closed place count (fuel + 1) = ⟨n, place - count + 1⟩ ∧
        inside low value high den closed (place - count + 1) n = true ∧
        n ≤ floorOn value den (place - count + 1) + 1) ∨
      search low value high den closed place count (fuel + 1)
          = search low value high den closed place (count + 1) fuel ∧
        inside low value high den closed (place - count + 1)
          (floorOn value den (place - count + 1)) = false ∧
        inside low value high den closed (place - count + 1)
          (floorOn value den (place - count + 1) + 1) = false := by
  set k : ℤ := place - count + 1 with hk
  set q := floorOn value den k with hq
  have hsearch : search low value high den closed place count (fuel + 1)
      = if inside low value high den closed k q &&
            (!inside low value high den closed k (q + 1) ||
              2 * ((onGrid value den k).1 % (onGrid value den k).2) < (onGrid value den k).2 ||
              (2 * ((onGrid value den k).1 % (onGrid value den k).2) = (onGrid value den k).2 &&
                q % 2 = 0)) then ⟨q, k⟩
        else if inside low value high den closed k (q + 1) then ⟨q + 1, k⟩
        else search low value high den closed place (count + 1) fuel := rfl
  rw [hsearch]
  split
  next htake =>
    exact .inl ⟨q, rfl, (Bool.and_eq_true_iff.1 htake).1, Nat.le_succ q⟩
  next htake =>
    split
    next habove => exact .inl ⟨q + 1, rfl, habove, le_rfl⟩
    next habove =>
      rw [Bool.not_eq_true] at habove
      refine .inr ⟨rfl, ?_, habove⟩
      simpa [habove] using htake

/-- The search ends inside when the finest grid has a neighbour inside. -/
theorem search_spec (fuel count : ℕ)
    (hlast : inside low value high den closed (place - (count + fuel : ℕ) + 1)
        (floorOn value den (place - (count + fuel : ℕ) + 1)) = true ∨
      inside low value high den closed (place - (count + fuel : ℕ) + 1)
        (floorOn value den (place - (count + fuel : ℕ) + 1) + 1) = true) :
    ∃ n k, search low value high den closed place count (fuel + 1) = ⟨n, k⟩ ∧
      inside low value high den closed k n = true ∧ n ≤ floorOn value den k + 1 ∧
      place - (count + fuel : ℕ) + 1 ≤ k := by
  induction fuel generalizing count with
  | zero =>
      rcases search_succ low value high closed place count 0 with
        ⟨n, hn, hinside, hle⟩ | ⟨-, hbelow, habove⟩
      · exact ⟨n, _, hn, hinside, hle, by simp⟩
      · rw [Nat.add_zero] at hlast
        simp [hbelow, habove] at hlast
  | succ fuel ih =>
      rcases search_succ low value high closed place count (fuel + 1) with
        ⟨n, hn, hinside, hle⟩ | ⟨hnext, -, -⟩
      · exact ⟨n, _, hn, hinside, hle, by omega⟩
      · rw [hnext]
        have hcount : count + (fuel + 1) = count + 1 + fuel := by omega
        rw [hcount] at hlast ⊢
        exact ih (count + 1) hlast

end Search

/-! ### Zeros at the end -/

theorem trim_spec (fuel : ℕ) (d : Decimal) :
    (trim fuel d).value = d.value ∧ (trim fuel d).digits ≤ d.digits := by
  induction fuel generalizing d with
  | zero => exact ⟨rfl, le_rfl⟩
  | succ fuel ih =>
      rw [trim]
      split
      next hzero =>
        obtain ⟨hvalue, hle⟩ := ih ⟨d.digits / 10, d.exponent + 1⟩
        refine ⟨hvalue.trans ?_, hle.trans (Nat.div_le_self _ _)⟩
        have hdigits : (d.digits : ℚ) = (d.digits / 10 : ℕ) * 10 := by
          exact_mod_cast (Nat.div_mul_cancel (Nat.dvd_of_mod_eq_zero hzero.2)).symm
        simp only [value]
        rw [hdigits, zpow_add_one₀ (by norm_num)]
        ring
      next => exact ⟨rfl, le_rfl⟩

/-! ### The shortest digits -/

theorem between_iff_within {m : ℕ} {e : ℤ} {w : ℚ} :
    Between (lowEnd m e) (highEnd m e) (m % 2 = 0) w ↔ Within m e w := by
  unfold Between
  by_cases hparity : m % 2 = 0
  · rw [if_pos (decide_eq_true hparity)]
    exact ⟨fun h => ⟨h.1, h.2, fun hodd => absurd hparity hodd⟩, fun h => ⟨h.low, h.high⟩⟩
  · rw [if_neg (by simpa using hparity)]
    exact ⟨fun h => ⟨h.1.le, h.2.le, fun _ => h⟩, fun h => h.inner hparity⟩

theorem ends_lt (m : ℕ) (e : ℤ) :
    lowEnd m e < m * 2 ^ e ∧ (m : ℚ) * 2 ^ e < highEnd m e := by
  have hpos := two_zpow_pos e
  unfold lowEnd highEnd
  constructor
  · split <;> linarith
  · linarith

/-- Seventeen digits are finer than the interval is wide. -/
theorem ten_zpow_lt_width {m : ℕ} {e place : ℤ} (hm : m < 2 ^ 53)
    (hplace : (10 : ℚ) ^ place ≤ m * 2 ^ e) :
    (10 : ℚ) ^ (place - 16) < highEnd m e - lowEnd m e := by
  have hpos := two_zpow_pos e
  have hten : (10 : ℚ) ^ (place - 16) = 10 ^ place / 10 ^ 16 := by
    rw [zpow_sub₀ (by norm_num)]
    rfl
  have hsmall : (m : ℚ) + 1 ≤ 2 ^ 53 := by exact_mod_cast hm
  have hscaled := mul_le_mul_of_nonneg_right hsmall hpos.le
  rw [hten, div_lt_iff₀ (by norm_num)]
  unfold highEnd lowEnd
  split
  next hnarrow =>
    rw [hnarrow.1] at hplace ⊢
    push_cast at hplace ⊢
    linarith
  next => linarith

/-- Of two neighbours around a value on a grid that is finer than the interval, one is inside. -/
theorem within_of_grid {m n : ℕ} {e k : ℤ} (hlow : (n : ℚ) * 10 ^ k ≤ m * 2 ^ e)
    (hhigh : (m : ℚ) * 2 ^ e < (n + 1 : ℕ) * 10 ^ k)
    (hfine : (10 : ℚ) ^ k < highEnd m e - lowEnd m e) :
    Within m e (n * 10 ^ k) ∨ Within m e ((n + 1 : ℕ) * 10 ^ k) := by
  obtain ⟨hbelow, habove⟩ := ends_lt m e
  by_cases hleft : lowEnd m e < n * 10 ^ k
  · exact .inl ⟨hleft.le, (hlow.trans_lt habove).le, fun _ => ⟨hleft, hlow.trans_lt habove⟩⟩
  · have hright : ((n + 1 : ℕ) : ℚ) * 10 ^ k < highEnd m e := by
      push_cast
      rw [not_lt] at hleft
      linarith
    exact .inr ⟨(hbelow.trans hhigh).le, hright.le, fun _ => ⟨hbelow.trans hhigh, hright⟩⟩

theorem ratio_one (m : ℕ) (e : ℤ) :
    (ratio m e).1 = m * (ratio 1 e).1 ∧ (ratio m e).2 = (ratio 1 e).2 := by
  cases e with
  | ofNat k => simp [ratio]
  | negSucc k => simp [ratio]

/-- The ends of the interval, as the search is given them. -/
theorem ends_ratio {m : ℕ} (hpos : 0 < m) (e : ℤ) :
    ((4 * (ratio m e).1 : ℕ) : ℚ) / (4 * (ratio m e).2 : ℕ) = m * 2 ^ e ∧
      ((4 * (ratio m e).1 - (if (decide (m = 2 ^ 52) && decide (-1074 < e)) = true then (ratio 1 e).1
        else 2 * (ratio 1 e).1) : ℕ) : ℚ) / (4 * (ratio m e).2 : ℕ) = lowEnd m e ∧
      ((4 * (ratio m e).1 + 2 * (ratio 1 e).1 : ℕ) : ℚ) / (4 * (ratio m e).2 : ℕ)
        = highEnd m e := by
  obtain ⟨hnum, hden⟩ := ratio_one m e
  have hunit := ratio_value 1 e
  have hden' : (0 : ℚ) < (ratio m e).2 := by exact_mod_cast ratio_pos m e
  rw [← hden, Nat.cast_one, one_mul, div_eq_iff hden'.ne'] at hunit
  rw [hnum]
  have hless : (ratio 1 e).1 ≤ m * (ratio 1 e).1 := Nat.le_mul_of_pos_left _ hpos
  generalize (ratio m e).2 = den at *
  generalize (ratio 1 e).1 = unit at *
  have hbool : (decide (m = 2 ^ 52) && decide (-1074 < e)) = true ↔ IsNarrow m e := by
    simp only [Bool.and_eq_true, decide_eq_true_eq, IsNarrow]
  refine ⟨?_, ?_, ?_⟩
  · push_cast
    rw [hunit]
    field_simp
  · unfold lowEnd
    by_cases hnarrow : IsNarrow m e
    · rw [if_pos (hbool.2 hnarrow), if_pos hnarrow, Nat.cast_sub (by omega)]
      push_cast
      rw [hunit]
      field_simp
    · rw [if_neg (mt hbool.1 hnarrow), if_neg hnarrow, Nat.cast_sub (by omega)]
      push_cast
      rw [hunit]
      field_simp
      ring
  · unfold highEnd
    push_cast
    rw [hunit]
    field_simp
    ring

/-- The digits that are found lie in the interval of the number, and are seventeen at most. -/
theorem shortest_spec {m : ℕ} {e : ℤ} (hpos : 0 < m) (hm : m < 2 ^ 53) (hfinest : -1074 ≤ e)
    (hlargest : e ≤ 971) :
    Within m e (shortest m e).value ∧ (shortest m e).digits ≤ 10 ^ 17 := by
  have hden : 0 < (ratio m e).2 := ratio_pos m e
  have hden4 : 0 < 4 * (ratio m e).2 := by omega
  have hvalue := ratio_value m e
  have hnum : (ratio m e).1 ≠ 0 := by
    rw [(ratio_one m e).1]
    have hunit : 0 < (ratio 1 e).1 := by
      cases e with
      | ofNat k => simp [ratio]
      | negSucc k => simp [ratio]
    exact (Nat.mul_pos hpos hunit).ne'
  obtain ⟨hplace, hplace'⟩ := leadingPlace_bounds hnum hden
    (by
      rw [hvalue]
      have hone : (1 : ℚ) ≤ m := by exact_mod_cast hpos
      exact (zpow_le_zpow_right₀ one_le_two hfinest).trans
        (le_mul_of_one_le_left (two_zpow_pos e).le hone))
    (by
      rw [hvalue]
      have hsmall : (m : ℚ) < (2 ^ 53 : ℕ) := by exact_mod_cast hm
      have hpow : (2 : ℚ) ^ (e + 53) = (2 ^ 53 : ℕ) * 2 ^ e := two_zpow_add e 53
      apply (mul_lt_mul_of_pos_right hsmall (two_zpow_pos e)).trans_le
      rw [← hpow]
      exact zpow_le_zpow_right₀ one_le_two (by omega))
  rw [hvalue] at hplace hplace'
  obtain ⟨hquotient, hlow, hhigh⟩ := ends_ratio hpos e
  have hshortest : shortest m e = trim 20 (search
      (4 * (ratio m e).1 - (if (decide (m = 2 ^ 52) && decide (-1074 < e)) = true then (ratio 1 e).1
        else 2 * (ratio 1 e).1))
      (4 * (ratio m e).1) (4 * (ratio m e).1 + 2 * (ratio 1 e).1) (4 * (ratio m e).2) (m % 2 = 0)
      (leadingPlace (ratio m e).1 (ratio m e).2) 1 17) := rfl
  generalize leadingPlace (ratio m e).1 (ratio m e).2 = place at *
  generalize 4 * (ratio m e).1 - (if (decide (m = 2 ^ 52) && decide (-1074 < e)) = true then
    (ratio 1 e).1 else 2 * (ratio 1 e).1) = low at *
  generalize 4 * (ratio m e).1 + 2 * (ratio 1 e).1 = high at *
  generalize 4 * (ratio m e).1 = value at *
  generalize 4 * (ratio m e).2 = den at *
  have hinside : ∀ k n, inside low value high den (m % 2 = 0) k n = true ↔ Within m e (n * 10 ^ k) := by
    intro k n
    rw [inside_iff low value high hden4, hlow, hhigh, between_iff_within]
  have hfloor := fun k => floorOn_bounds value hden4 k
  rw [hquotient] at hfloor
  obtain ⟨n, k, hsearch, hfound, hn, hk⟩ := search_spec low value high (m % 2 = 0) place 16 1 (by
    rw [hinside, hinside]
    obtain ⟨hbelow, habove⟩ := hfloor (place - (1 + 16 : ℕ) + 1)
    apply within_of_grid hbelow habove
    rw [show place - (1 + 16 : ℕ) + 1 = place - 16 by omega]
    exact ten_zpow_lt_width hm hplace)
  rw [hinside] at hfound
  rw [hshortest, hsearch]
  obtain ⟨htrim, hdigits⟩ := trim_spec 20 ⟨n, k⟩
  refine ⟨by rw [htrim]; exact hfound, hdigits.trans ?_⟩
  have hless : (floorOn value den k : ℚ) < 10 ^ 17 := by
    have hbound : (floorOn value den k : ℚ) * 10 ^ k < 10 ^ (17 : ℤ) * 10 ^ k := by
      rw [← zpow_add₀ (by norm_num)]
      refine ((hfloor k).1.trans_lt hplace').trans_le (zpow_le_zpow_right₀ (by norm_num) ?_)
      omega
    exact_mod_cast lt_of_mul_lt_mul_right hbound (ten_zpow_pos k).le
  have hnat : floorOn value den k < 10 ^ 17 := by exact_mod_cast hless
  exact hn.trans hnat

end LookupBench.Decimal
