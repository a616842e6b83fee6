import LookupBench.Proofs.Number.Finite
import LookupBench.Proofs.Results.RoundTrip

/-!
# Figures are finite

Percentages of counts within 64 bits, and all figures over latencies that a clock can give.
-/

namespace LookupBench

open Binary64

theorem isFinite_percent {count runs : Nat} (hcount : count < 2 ^ 64) (hruns : runs < 2 ^ 64) :
    (percent count runs).isFinite = true := by
  unfold percent
  split
  · exact isFinite_zero false
  next hne =>
    have hhundred : HasValue (.ofNat 100) (100 : ℕ) := hasValue_ofNat (by norm_num)
    obtain ⟨_, _, -, hvalue, hle⟩ := nearest_ofNat hcount
    obtain ⟨w, hw, hone⟩ := exists_hasValue_ofNat_pos (Nat.pos_of_ne_zero hne) hruns
    have hless : (100 : ℕ) * _ < (2 : ℚ) ^ (71 : ℤ) :=
      (mul_le_mul_of_nonneg_left hle (Nat.cast_nonneg 100)).trans_lt (by norm_num)
    obtain ⟨u, hu, -⟩ := exists_hasValue_mul hhundred hvalue hless (by omega) (by omega)
    dsimp only
    split
    · exact hhundred.hasSize.isFinite
    · exact isFinite_div hu.hasSize.isFinite hw hone

/-! ### Latencies -/

/-- A number that is less than half a last place of the largest one. -/
def Binary64.IsSmall (x : Binary64) : Prop := ∃ v, HasSize x v ∧ v < halfPlace

theorem Binary64.IsSmall.isFinite {x : Binary64} (h : x.IsSmall) : x.isFinite = true := by
  obtain ⟨v, hv, -⟩ := h
  exact hv.isFinite

/-- However many numbers are added, if each is small. -/
theorem isFinite_sum {xs : List Binary64} (h : ∀ x ∈ xs, x.IsSmall) : (sum xs).isFinite = true := by
  -- The sum so far need not be small: it gets stuck below the largest number.
  suffices hfold : ∀ start : Binary64, start.isFinite = true →
      (xs.foldl Binary64.add start).isFinite = true from hfold _ (isFinite_zero true)
  induction xs with
  | nil => exact fun _ hstart => hstart
  | cons x xs ih =>
      obtain ⟨⟨v, hv, hless⟩, hxs⟩ := List.forall_mem_cons.1 h
      exact fun start hstart => ih hxs _ (isFinite_add hstart hv hless)

theorem mem_of_percentile {sorted : List Binary64} {q x : Binary64}
    (h : percentile sorted q = some x) : x ∈ sorted := List.mem_of_getElem? h

theorem LatencyStats.fits_ofSamples {samples : List Binary64} (h : ∀ x ∈ samples, x.IsSmall)
    (hlength : samples.length < 2 ^ 64) : (ofSamples samples).Fits := by
  have hperm := List.mergeSort_perm samples Binary64.totalLe
  have hsorted : ∀ x ∈ samples.mergeSort Binary64.totalLe, x.IsSmall := fun x hx =>
    h x (hperm.mem_iff.1 hx)
  rw [← hperm.length_eq] at hlength
  unfold ofSamples
  generalize samples.mergeSort Binary64.totalLe = sorted at hsorted hlength
  constructor
  · exact hlength
  · exact fun x hx => (hsorted x (mem_of_percentile hx)).isFinite
  · exact fun x hx => (hsorted x (mem_of_percentile hx)).isFinite
  · exact fun x hx => (hsorted x (List.mem_of_mem_head? hx)).isFinite
  · exact fun x hx => (hsorted x (List.mem_of_getLast? hx)).isFinite
  · intro x hx
    dsimp only at hx
    split at hx
    · cases hx
    next hne =>
      cases hx
      have hpos : 0 < sorted.length := List.length_pos_iff.2 fun hnil => hne (by rw [hnil]; rfl)
      obtain ⟨w, hw, hone⟩ := exists_hasValue_ofNat_pos hpos hlength
      exact isFinite_div (isFinite_sum hsorted) hw hone

end LookupBench
