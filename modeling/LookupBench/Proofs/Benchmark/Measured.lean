import LookupBench.Proofs.Benchmark.Circumstances
import LookupBench.Proofs.Benchmark.Tally
import LookupBench.Proofs.Results.Figures

/-!
# What a session measures

The locations of an outcome are read from an answer, with coordinates held within words of 64 bits,
and its latency is the time between two readings of a clock. So whatever a server answers, the
figures of an outcome can be written down, as long as the locations are no more than a word can
count and the time is a duration.
-/

namespace LookupBench

open Json Binary64

/-! ### Locations -/

theorem isInt64_clamp {low high i : Int} (hlow : low = Location.lowest)
    (hhigh : high = Location.highest) : isInt64 (max low (min i high)) = true := by
  subst hlow hhigh
  rw [isInt64_iff]
  simp only [Location.lowest, Location.highest]
  omega

theorem isInt64_truncateWithin (x : Binary64) :
    isInt64 (x.truncateWithin Location.lowest Location.highest) = true := by
  unfold truncateWithin
  split
  · exact isInt64_clamp rfl rfl
  · split <;> decide
  · exact isInt64_clamp rfl rfl

theorem Location.isInt64_of_coordinate? {v : Json} {i : Int} (h : coordinate? v = some i) :
    isInt64 i = true := by
  rcases Option.or_eq_some_iff.1 h with hword | ⟨-, hheld⟩
  · unfold asInt64? at hword
    split at hword
    · split at hword
      next hi =>
        cases hword
        exact hi
      · cases hword
    · cases hword
  · obtain ⟨x, -, rfl⟩ := Option.map_eq_some_iff.1 hheld
    exact isInt64_truncateWithin x

theorem Location.fits_of_position? {v : Json} {p : Position} (h : position? v = some p) :
    p.Fits := by
  unfold position? at h
  simp only [bind, Option.bind_eq_some_iff, pure, Option.some.injEq] at h
  obtain ⟨_, -, line, hline, _, -, character, hcharacter, rfl⟩ := h
  exact ⟨isInt64_of_coordinate? hline, isInt64_of_coordinate? hcharacter⟩

theorem Location.fits_of_ofItem? {item : Json} {l : Location} (h : ofItem? item = some l) :
    l.range.start.Fits ∧ l.range.stop.Fits := by
  unfold ofItem? range? at h
  simp only [bind, Option.bind_eq_some_iff, pure, Option.some.injEq] at h
  obtain ⟨_, -, _, -, _, ⟨_, -, start, hstart, _, -, stop, hstop, rfl⟩, rfl⟩ := h
  exact ⟨fits_of_position? hstart, fits_of_position? hstop⟩

/-- Whatever a server answers, the locations in it have coordinates of 64 bits. -/
theorem Location.fits_of_mem_ofAnswer {answer : Json} {l : Location} (h : l ∈ ofAnswer answer) :
    l.range.start.Fits ∧ l.range.stop.Fits := by
  unfold ofAnswer at h
  split at h
  · cases h
  · obtain ⟨item, -, hitem⟩ := List.mem_filterMap.1 h
    exact fits_of_ofItem? hitem
  · exact fits_of_ofItem? (Option.mem_toList.1 h)

/-! ### Latencies -/

/-- The time between two moments, as a duration has it. -/
def IsSpan (start stop : Nat) : Prop := stop - start < 2 ^ 64 * Duration.perSecond

theorem exists_hasValue_toSeconds {n : Nat} (h : n < 2 ^ 64 * Duration.perSecond) :
    ∃ v, HasValue (Duration.toSeconds ⟨n⟩) v ∧ v ≤ 2 ^ (65 : ℤ) := by
  have hsecond : HasValue (.ofNat Duration.perSecond) Duration.perSecond :=
    hasValue_ofNat (by decide)
  have hpos : (0 : ℚ) < Duration.perSecond := by norm_num [Duration.perSecond]
  have hmod : n % Duration.perSecond < Duration.perSecond := Nat.mod_lt _ (by decide)
  have hrest : HasValue (.ofNat (n % Duration.perSecond)) (n % Duration.perSecond : ℕ) :=
    hasValue_ofNat (hmod.le.trans (by decide))
  have hfraction : ((n % Duration.perSecond : ℕ) : ℚ) / Duration.perSecond < 2 ^ (0 : ℤ) := by
    rw [zpow_zero, div_lt_one hpos]
    exact_mod_cast hmod
  -- Whole seconds and the part of one are converted on their own, and rounded once more together.
  have hseconds : n / Duration.perSecond < 2 ^ 64 :=
    Nat.div_lt_of_lt_mul (by rwa [Nat.mul_comm])
  obtain ⟨_, _, -, hwhole, hwholeLe⟩ := nearest_ofNat hseconds
  obtain ⟨_, hpart, hpartLe⟩ :=
    exists_hasValue_div hrest hsecond hpos.ne' hfraction (by omega) (by omega)
  have hless := (add_le_add hwholeLe hpartLe).trans_lt
    (show (2 : ℚ) ^ (64 : ℤ) + 2 ^ (0 : ℤ) < 2 ^ (65 : ℤ) by norm_num)
  exact exists_hasValue_add hwhole hpart hless (by omega) (by omega)

theorem isSmall_elapsed {start stop : Nat} (h : IsSpan start stop) :
    (Session.elapsed start stop).IsSmall := by
  obtain ⟨v, hv, hle⟩ := exists_hasValue_toSeconds h
  have hthousand : HasValue (.ofNat 1000) (1000 : ℕ) := hasValue_ofNat (by norm_num)
  have hless : v * (1000 : ℕ) < 2 ^ (75 : ℤ) :=
    (mul_le_mul_of_nonneg_right hle (Nat.cast_nonneg _)).trans_lt (by norm_num)
  obtain ⟨u, hu, hule⟩ := exists_hasValue_mul hv hthousand hless (by omega) (by omega)
  refine ⟨u, hu.hasSize, hule.trans_lt ?_⟩
  exact (zpow_lt_zpow_iff_right₀ one_lt_two).2 (by norm_num)

/-! ### Outcomes -/

/-- A lookup that was answered or failed, with the locations of the answer and the time between two
readings of a clock. -/
inductive LookupResult.Taken : LookupResult → Prop where
  | success (answer : Json) (start stop : Nat) :
      Taken (.success (Location.ofAnswer answer) (Session.elapsed start stop))
  | failure (cause : ClientFailure) (start stop : Nat) :
      Taken (.failure cause (some (Session.elapsed start stop)))

inductive SessionOutcome.Taken : SessionOutcome → Prop where
  | completed {result : LookupResult} (h : result.Taken) : Taken (.completed result)
  | failed (message : String) : Taken (.failed message)

theorem SessionOutcome.Taken.real {outcome : SessionOutcome} (h : outcome.Taken) :
    outcome.Real := by
  cases h with
  | failed message => exact .failed message
  | completed h =>
      cases h with
      | success => exact .completed (.success _ _)
      | failure => exact .completed (.failure _ _)

theorem Session.yields_lookup_taken {σ : Type} (s : Surroundings σ) (uri : String)
    (position : Position) (limit : Duration) :
    Yields LookupResult.Taken (lookup s uri position limit) := by
  unfold lookup
  refine yields_bind (yields_any _) fun start _ => yields_bind (yields_any _) fun outcome _ =>
    yields_bind (yields_any _) fun stop _ => ?_
  cases outcome with
  | ok answer => exact yields_pure (.success answer _ _)
  | error failure => exact yields_pure (.failure failure _ _)

/-- Whatever goes on around a client, what comes of its session is taken from an answer and a
clock. -/
theorem Query.taken_run {σ : Type} (s : Surroundings σ) (config : Config) (name : String)
    (settings : Option Json) (rootUri text : String) (case : Case) (state : σ × Client) :
    ((run s config name settings rootUri text case).run state).1.Taken := by
  rcases run_cases (fun limit => Session.yields_lookup_taken s case.uri case.position limit) name
    settings rootUri text state with ⟨message, heq⟩ | ⟨result, heq, htaken⟩
  · rw [heq]
    exact .failed message
  · rw [heq]
    exact .completed htaken

/-- A word counts the locations, and the time is a duration. -/
structure LookupResult.Sized (result : LookupResult) : Prop where
  count : result.count < 2 ^ 64
  time : ∃ start stop, IsSpan start stop ∧ result.latency = some (Session.elapsed start stop)

/-! ### What the outside brings -/

namespace Benchmark.Circumstances

/-- Every outcome is taken from an answer and a clock. -/
def AllTaken (c : Circumstances) : Prop :=
  ∀ root contenders run case, ∀ e ∈ c.conduct root contenders run case, e.2.Taken

/-- No answer is too long for a word to count, and no time too long for a duration. -/
def AllSized (c : Circumstances) : Prop :=
  ∀ root contenders run case name result,
    (name, .completed result) ∈ c.conduct root contenders run case → result.Sized

theorem AllTaken.allReal {c : Circumstances} (h : c.AllTaken) : c.AllReal :=
  fun root contenders run case e he => (h root contenders run case e he).real

end Benchmark.Circumstances

/-- Sessions on a host are no exception. -/
theorem Host.allTaken_circumstances (host : Host) (config : Config) (seed : UInt64)
    (time : Binary64) : (host.circumstances config seed time).AllTaken := by
  intro root contenders run case e hmem
  simp only [circumstances, conduct] at hmem
  obtain ⟨contender, -, rfl⟩ := List.mem_map.1 hmem
  dsimp only
  unfold session
  split
  · exact .failed _
  · dsimp only
    split
    · exact .failed _
    · exact Query.taken_run Wire.surroundings config _ _ _ _ case _

/-! ### Results -/

/-- A result that fits, with a latency that a sum can take any number of. -/
structure ServerCaseResult.Summable (r : ServerCaseResult) : Prop where
  fits : r.Fits
  latency : ∀ x, r.latency = some x → x.IsSmall

namespace ServerCaseResult

theorem summable_failed (message : String) : (failed message).Summable :=
  ⟨⟨Nat.two_pow_pos 64, nofun, nofun⟩, nofun⟩

theorem summable_ofResult {lookup : LookupResult} (htaken : lookup.Taken) (hsized : lookup.Sized) :
    (ofResult lookup).Summable := by
  obtain ⟨start, stop, hspan, hlatency⟩ := hsized.time
  have hsmall : ∀ x, lookup.latency = some x → x.IsSmall := fun x hx => by
    rw [hlatency] at hx
    cases hx
    exact isSmall_elapsed hspan
  refine ⟨⟨hsized.count, fun x hx => (hsmall x hx).isFinite, fun r hr => ?_⟩, hsmall⟩
  obtain ⟨l, hl, rfl⟩ := List.mem_map.1 hr
  cases htaken with
  | success => exact ⟨(Location.fits_of_mem_ofAnswer hl).1, (Location.fits_of_mem_ofAnswer hl).2⟩
  | failure => cases hl

end ServerCaseResult

theorem SessionOutcome.Taken.summable {outcome : SessionOutcome} (h : outcome.Taken)
    (hsized : ∀ result, outcome = .completed result → result.Sized) : outcome.result.Summable := by
  cases h with
  | completed h => exact ServerCaseResult.summable_ofResult h (hsized _ rfl)
  | failed message => exact ServerCaseResult.summable_failed message

end LookupBench
