import LookupBench.Proofs.Benchmark.Circumstances
import LookupBench.Proofs.Number.Duration

/-!
# Limits of a checked configuration

A check asks for seconds that are finite and more than zero. That is less than it takes for a limit
to be of use: `2 ^ 64` seconds are too many for a duration, and half a nanosecond or less is none at
all. Nothing else is wrong with the seconds that a check lets pass, and if none of the three are too
many, no session breaks off because of them.
-/

namespace LookupBench

open Binary64

namespace Query

open Session

variable {σ : Type} {config : Config}

/-- Without a time to get ready, a session breaks off before anything was said. -/
theorem run_of_startFault {fault : DurationFault}
    (h : Duration.ofSeconds config.startTimeout = .error fault) (s : Surroundings σ) (name : String)
    (settings : Option Json) (rootUri text : String) (case : Case) (state : σ × Client) :
    (run s config name settings rootUri text case).run state = (brokenOff name fault, state) := by
  unfold run
  rw [h]
  rfl

/-- With three durations, a session ends as the talk with the server does. -/
theorem exists_outcomeOf_run
    (h : ∀ waiting, ∃ limit, Duration.ofSeconds (config.seconds waiting) = .ok limit)
    (s : Surroundings σ) (name : String) (settings : Option Json) (rootUri text : String)
    (case : Case) (state : σ × Client) :
    ∃ outcome, ((run s config name settings rootUri text case).run state).1 = outcomeOf outcome := by
  obtain ⟨limit, hlimit⟩ := h .definition
  obtain ⟨startLimit, hstart⟩ := h .start
  obtain ⟨stopLimit, hstop⟩ := h .stop
  have hlookup : Yields (fun answer => ∃ result, answer = .ok result)
      (lookupInTime s config case) := by
    unfold lookupInTime
    rw [show Duration.ofSeconds config.timeout = .ok limit from hlimit]
    exact yields_bind (yields_any _) fun result _ => yields_pure ⟨result, rfl⟩
  have hleave : ∀ outcome state',
      ((leave s config name outcome).run state').1 = outcomeOf outcome := by
    intro outcome state'
    unfold leave
    rw [show Duration.ofSeconds config.stopTimeout = .ok stopLimit from hstop]
    rfl
  have hask := yields_ask hlookup settings rootUri text startLimit state
  unfold run
  rw [show Duration.ofSeconds config.startTimeout = .ok startLimit from hstart]
  simp only [bind, StateT.bind, StateT.run, ExceptT.run]
  generalize ask s config settings rootUri text case startLimit state = asked at hask
  obtain ⟨answer, state'⟩ := asked
  rcases answer with failure | answer
  · exact ⟨_, hleave _ state'⟩
  · obtain ⟨result, rfl⟩ := hask _ _ rfl
    exact ⟨_, hleave _ state'⟩

end Query

namespace Config

variable {files : Files} {config : Config}

theorem exists_seconds_of_check (h : config.check files = .ok ()) (waiting : Waiting) :
    ∃ v, HasValue (config.seconds waiting) v ∧ 0 < v := by
  have hwaitable := (check_eq_ok h).2.2 waiting
  rw [isWaitable, Bool.and_eq_true] at hwaitable
  exact exists_hasValue_pos hwaitable.1 hwaitable.2

/-- Each of the three limits of a checked configuration is a number of seconds above zero. It is
refused as too much from `2 ^ 64` on and for no other reason; and what it comes to, if not, is more
than nothing if and only if it is more than half a nanosecond. With three limits below `2 ^ 64` every
session ends as the talk with the server does. Where the time to get ready is not, every session
breaks off before anything was said. -/
theorem limits_of_check (h : config.check files = .ok ()) :
    (∀ waiting, ∃ v, HasValue (config.seconds waiting) v ∧ 0 < v ∧
      match Duration.ofSeconds (config.seconds waiting) with
      | .error fault => fault = .tooBig ∧ 2 ^ 64 ≤ v
      | .ok limit => v < 2 ^ 64 ∧ (0 < limit.nanoseconds ↔ 1 / 2 < v * Duration.perSecond)) ∧
    ∀ (σ : Type) (s : Surroundings σ) (name : String) (settings : Option Json)
      (rootUri text : String) (case : Case) (state : σ × Client),
      ((∀ waiting v, HasValue (config.seconds waiting) v → v < 2 ^ 64) →
        ∃ outcome, ((Query.run s config name settings rootUri text case).run state).1
          = Query.outcomeOf outcome) ∧
      ((∀ v, HasValue (config.seconds .start) v → 2 ^ 64 ≤ v) →
        (Query.run s config name settings rootUri text case).run state
          = (Query.brokenOff name .tooBig, state)) := by
  refine ⟨fun waiting => ?_, fun σ s name settings rootUri text case state =>
    ⟨fun hsmall => ?_, fun hbig => ?_⟩⟩
  · obtain ⟨v, hv, hpos⟩ := exists_seconds_of_check h waiting
    refine ⟨v, hv, hpos, ?_⟩
    rcases Duration.ofSeconds_cases hv with ⟨hbig, heq⟩ | ⟨hsmall, n, heq, hrounds⟩
    · rw [heq]
      exact ⟨rfl, hbig⟩
    · rw [heq]
      refine ⟨hsmall, ?_⟩
      dsimp only
      rw [Nat.pos_iff_ne_zero, ne_eq, hrounds.eq_zero_iff, not_le]
  · refine Query.exists_outcomeOf_run (fun waiting => ?_) s name settings rootUri text case state
    obtain ⟨v, hv, -⟩ := exists_seconds_of_check h waiting
    rcases Duration.ofSeconds_cases hv with ⟨hbig, -⟩ | ⟨-, n, heq, -⟩
    · exact absurd (hsmall waiting v hv) (not_lt_of_ge hbig)
    · exact ⟨_, heq⟩
  · obtain ⟨v, hv, -⟩ := exists_seconds_of_check h .start
    rcases Duration.ofSeconds_cases hv with ⟨-, heq⟩ | ⟨hsmall, -⟩
    · exact Query.run_of_startFault heq s name settings rootUri text case state
    · exact absurd (hbig v hv) (not_le_of_gt hsmall)

/-- Ten to the 300th and ten to the minus tenth seconds, both of which a check lets pass. -/
def extreme : Config :=
  { Benchmark.smallConfig with
    timeout := ⟨0x7E37E43C8800759C⟩
    stopTimeout := ⟨0x3DDB7CDFD9D7BDBB⟩ }

theorem check_extreme : extreme.check Benchmark.small.files = .ok () := by decide +kernel

theorem ofSeconds_extreme :
    Duration.ofSeconds (extreme.seconds .definition) = .error .tooBig ∧
      Duration.ofSeconds (extreme.seconds .stop) = .ok ⟨0⟩ := by
  decide +kernel

/-- A check does not see to it that limits can be used. -/
theorem check_passes_unusable :
    extreme.check Benchmark.small.files = .ok () ∧
      ¬ ∀ waiting, ∃ limit, Duration.ofSeconds (extreme.seconds waiting) = .ok limit ∧
        0 < limit.nanoseconds := by
  refine ⟨check_extreme, fun h => ?_⟩
  obtain ⟨limit, hlimit, -⟩ := h .definition
  rw [ofSeconds_extreme.1] at hlimit
  cases hlimit

theorem limits_of_check_extreme :
    extreme.check Benchmark.small.files = .ok () ∧
      (∃ v, HasValue (extreme.seconds .definition) v ∧ 0 < v ∧ 2 ^ 64 ≤ v) ∧
      ∃ v, HasValue (extreme.seconds .stop) v ∧ 0 < v ∧ v < 2 ^ 64 ∧
        v * Duration.perSecond ≤ 1 / 2 := by
  refine ⟨check_extreme, ?_, ?_⟩
  · simpa [ofSeconds_extreme.1] using (limits_of_check check_extreme).1 .definition
  · simpa [ofSeconds_extreme.2] using (limits_of_check check_extreme).1 .stop

end Config

end LookupBench
