import LookupBench.Proofs.Number.Order
import LookupBench.Proofs.Results.Figures

/-!
# Figures over latencies

Sorting forgets in which order the samples came, since numbers that the total order takes for equal
are the same; so no figure depends on that order, not even the mean, for which the samples are added
up as they are sorted. The figures in the middle are at places that grow with the fraction and never
leave the list.
-/

namespace LookupBench

open Binary64

/-! ### Places -/

/-- The place at the fraction `q` of the way through `n` samples. -/
def percentilePlace (n : ℕ) (q : Binary64) : ℕ :=
  min (((Binary64.ofNat n).mul q).truncateWithin 0 indexLimit).toNat (n - 1)

theorem indexLimit_nonneg : 0 ≤ indexLimit := by decide

theorem percentilePlace_lt {n : ℕ} (hn : 0 < n) (q : Binary64) : percentilePlace n q < n := by
  unfold percentilePlace
  omega

theorem percentilePlace_mono {n : ℕ} (hn : 0 < n) {q q' : Binary64} (hq : q.isNaN = false)
    (hq' : q'.isNaN = false) (hlt : q'.lt q = false) :
    percentilePlace n q ≤ percentilePlace n q' :=
  min_le_min_right _ <| Int.toNat_le_toNat <|
    truncateWithin_mul_mono (positive_ofNat hn) hq hq' hlt indexLimit_nonneg

theorem percentile_eq (xs : List Binary64) (q : Binary64) :
    percentile xs q = xs[percentilePlace xs.length q]? := rfl

/-! ### Sorted samples -/

section Sorted

variable {samples sorted : List Binary64}

theorem pairwise_sorted (samples : List Binary64) :
    (samples.mergeSort totalLe).Pairwise fun x y => x.totalLe y = true :=
  List.pairwise_mergeSort totalLe_trans totalLe_total samples

/-- Samples in whatever order are sorted to the same list. -/
theorem mergeSort_eq_of_perm {samples' : List Binary64} (h : samples.Perm samples') :
    samples.mergeSort totalLe = samples'.mergeSort totalLe := by
  have hperm : (samples.mergeSort totalLe).Perm (samples'.mergeSort totalLe) :=
    (List.mergeSort_perm samples _).trans (h.trans (List.mergeSort_perm samples' _).symm)
  exact hperm.eq_of_pairwise (fun _ _ _ _ => totalLe_antisymm) (pairwise_sorted samples)
    (pairwise_sorted samples')

theorem totalLe_getElem (h : sorted.Pairwise fun x y => x.totalLe y = true) {i j : ℕ}
    (hij : i ≤ j) (hj : j < sorted.length) : sorted[i].totalLe sorted[j] = true := by
  rcases hij.eq_or_lt with rfl | hlt
  · exact totalLe_refl _
  · exact List.pairwise_iff_getElem.1 h i j (hlt.trans hj) hj hlt

end Sorted

/-- In a list in order, a larger fraction does not lead to a lesser element. -/
theorem percentile_mono {xs : List Binary64} {q q' : Binary64}
    (hmono : percentilePlace xs.length q ≤ percentilePlace xs.length q')
    (hsorted : xs.Pairwise fun x y => x.totalLe y = true) :
    ∀ x ∈ percentile xs q, ∀ y ∈ percentile xs q', x.totalLe y = true := by
  intro x hx y hy
  obtain ⟨hi, rfl⟩ := List.getElem?_eq_some_iff.1 hx
  obtain ⟨hj, rfl⟩ := List.getElem?_eq_some_iff.1 hy
  exact totalLe_getElem hsorted hmono hj

namespace LatencyStats

/-- The figures that are samples, from the least to the largest. -/
def inOrder (s : LatencyStats) : List (Option Binary64) := [s.min, s.p50, s.p95, s.max]

/-- Where the figures are that are samples. -/
def places (n : ℕ) : List ℕ :=
  [0, percentilePlace n half, percentilePlace n nineteenTwentieths, n - 1]

/-- What figures over samples are. -/
structure Describes (s : LatencyStats) (samples : List Binary64) : Prop where
  count : s.count = samples.length
  missing : ∀ figure ∈ s.mean :: s.inOrder, figure = none ↔ samples = []
  sample : ∀ figure ∈ s.inOrder, ∀ x ∈ figure, x ∈ samples
  ascending : s.inOrder.Pairwise fun a b => ∀ x ∈ a, ∀ y ∈ b, x.totalLe y = true
  least : ∀ low ∈ s.min, ∀ x ∈ samples, low.totalLe x = true
  largest : ∀ high ∈ s.max, ∀ x ∈ samples, x.totalLe high = true

theorem inOrder_ofSamples (samples : List Binary64) :
    (ofSamples samples).inOrder
      = (places samples.length).map ((samples.mergeSort totalLe)[·]?) := by
  have hlength := (List.mergeSort_perm samples totalLe).length_eq
  simp only [inOrder, ofSamples, places, percentile_eq, List.head?_eq_getElem?,
    List.getLast?_eq_getElem?, hlength, List.map_cons, List.map_nil]

theorem pairwise_places (n : ℕ) : (places n).Pairwise (· ≤ ·) := by
  have hmid : percentilePlace n half ≤ percentilePlace n nineteenTwentieths := by
    rcases n.eq_zero_or_pos with rfl | hn
    · simp [percentilePlace]
    · exact percentilePlace_mono hn (by decide +kernel) (by decide +kernel) (by decide +kernel)
  have hlast : percentilePlace n nineteenTwentieths ≤ n - 1 := min_le_right _ _
  simp only [places, List.pairwise_cons, List.forall_mem_cons, List.not_mem_nil, false_imp_iff,
    implies_true, List.Pairwise.nil, and_true, Nat.zero_le, true_and]
  omega

theorem lt_of_mem_places {n i : ℕ} (hn : 0 < n) (hi : i ∈ places n) : i < n := by
  have hhalf := percentilePlace_lt hn half
  have hmost := percentilePlace_lt hn nineteenTwentieths
  simp only [places, List.mem_cons, List.not_mem_nil, or_false] at hi
  omega

theorem describes_ofSamples (samples : List Binary64) : (ofSamples samples).Describes samples := by
  have hperm := List.mergeSort_perm samples totalLe
  have hlength := hperm.length_eq
  have hsorted := pairwise_sorted samples
  have hindex {x : Binary64} (hx : x ∈ samples) :
      ∃ i, ∃ h : i < samples.length, (samples.mergeSort totalLe)[i] = x := by
    obtain ⟨i, hi, rfl⟩ := List.mem_iff_getElem.1 (hperm.mem_iff.2 hx)
    exact ⟨i, hlength ▸ hi, rfl⟩
  have hfigure {figure : Option Binary64} (h : figure ∈ (ofSamples samples).inOrder) :
      ∃ i ∈ places samples.length, figure = (samples.mergeSort totalLe)[i]? := by
    rw [inOrder_ofSamples] at h
    obtain ⟨i, hi, rfl⟩ := List.mem_map.1 h
    exact ⟨i, hi, rfl⟩
  constructor
  case count => exact hlength
  case missing =>
    refine List.forall_mem_cons.2 ⟨?_, fun figure h => ?_⟩
    · have hnil : samples.mergeSort totalLe = [] ↔ samples = [] := by
        rw [← List.length_eq_zero_iff, hlength, List.length_eq_zero_iff]
      simp [ofSamples, hnil]
    · obtain ⟨i, hi, rfl⟩ := hfigure h
      rw [List.getElem?_eq_none_iff, hlength, ← List.length_eq_zero_iff]
      refine ⟨fun hle => ?_, fun hzero => hzero ▸ Nat.zero_le i⟩
      by_contra hne
      exact absurd (lt_of_mem_places (Nat.pos_of_ne_zero hne) hi) (Nat.not_lt.2 hle)
  case sample =>
    intro figure h x hx
    obtain ⟨i, -, rfl⟩ := hfigure h
    exact hperm.mem_iff.1 (List.mem_of_getElem? hx)
  case ascending =>
    rw [inOrder_ofSamples, List.pairwise_map]
    refine (pairwise_places _).imp fun hij x hx y hy => ?_
    obtain ⟨hi, rfl⟩ := List.getElem?_eq_some_iff.1 hx
    obtain ⟨hj, rfl⟩ := List.getElem?_eq_some_iff.1 hy
    exact totalLe_getElem hsorted hij hj
  case least =>
    intro low hlow x hx
    obtain ⟨i, hi, rfl⟩ := hindex hx
    rw [ofSamples, List.head?_eq_getElem?] at hlow
    obtain ⟨hfirst, rfl⟩ := List.getElem?_eq_some_iff.1 hlow
    exact totalLe_getElem hsorted (Nat.zero_le i) (hlength ▸ hi)
  case largest =>
    intro high hhigh x hx
    obtain ⟨i, hi, rfl⟩ := hindex hx
    rw [ofSamples, List.getLast?_eq_getElem?] at hhigh
    obtain ⟨hlast, rfl⟩ := List.getElem?_eq_some_iff.1 hhigh
    exact totalLe_getElem hsorted (by omega) hlast

/-- No figure depends on the order of the samples. The figures that are samples are there as soon as
there is one, ascend in the total order, and enclose all samples. And the figure at a fraction is an
element of the list, whatever the fraction is, further on for a larger one that is a number. -/
theorem ofSamples_figures (samples : List Binary64) :
    (ofSamples samples).Describes samples ∧
      (∀ samples', samples.Perm samples' → ofSamples samples = ofSamples samples') ∧
      ∀ xs : List Binary64, xs ≠ [] →
        (∀ q, percentilePlace xs.length q < xs.length ∧
          percentile xs q = xs[percentilePlace xs.length q]?) ∧
        ∀ q q', q.isNaN = false → q'.isNaN = false → q'.lt q = false →
          percentilePlace xs.length q ≤ percentilePlace xs.length q' ∧
            ((xs.Pairwise fun x y => x.totalLe y = true) →
              ∀ x ∈ percentile xs q, ∀ y ∈ percentile xs q', x.totalLe y = true) := by
  refine ⟨describes_ofSamples samples, fun samples' hperm => ?_, fun xs hxs => ?_⟩
  · rw [ofSamples, ofSamples, mergeSort_eq_of_perm hperm]
  · have hpos := List.length_pos_iff.2 hxs
    refine ⟨fun q => ⟨percentilePlace_lt hpos q, percentile_eq xs q⟩, fun q q' hq hq' hlt => ?_⟩
    have hmono := percentilePlace_mono hpos hq hq' hlt
    exact ⟨hmono, percentile_mono hmono⟩

/-- Numbers of all sorts, in order. -/
def allSorts : List Binary64 := [infinity true, zero true, zero false, ofNat 1, infinity false, nan]

/-- A sample of each sort, and the fractions that lead out of the list on both sides. -/
theorem ofSamples_figures_allSorts :
    ofSamples allSorts = ofSamples allSorts.reverse ∧ allSorts ≠ [] ∧
      (infinity true).isNaN = false ∧ half.isNaN = false ∧ half.lt (infinity true) = false ∧
      ∀ x ∈ percentile allSorts (infinity true), ∀ y ∈ percentile allSorts half,
        x.totalLe y = true := by
  obtain ⟨-, hperm, hplace⟩ := ofSamples_figures allSorts
  obtain ⟨-, hmono⟩ := hplace allSorts (by decide)
  have hneg : (infinity true).isNaN = false := by decide +kernel
  have hhalf : half.isNaN = false := by decide +kernel
  have hlt : half.lt (infinity true) = false := by decide +kernel
  refine ⟨hperm _ (List.reverse_perm _).symm, by decide, hneg, hhalf, hlt, ?_⟩
  exact (hmono _ _ hneg hhalf hlt).2 (by decide +kernel)

end LatencyStats

end LookupBench
