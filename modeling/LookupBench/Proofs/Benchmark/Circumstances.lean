import LookupBench.Benchmark.OnHost
import LookupBench.Proofs.Config.Check

/-!
# What can come of a session

A session either breaks off, or its lookup comes to one of two things: it was answered, with the
time that took, or it failed. Whatever the surroundings of a client do, nothing else comes of it.
-/

namespace LookupBench

/-- An answered lookup or one that failed. -/
inductive LookupResult.Real : LookupResult → Prop where
  | success (locations : List Location) (latency : Binary64) : Real (.success locations latency)
  | failure (cause : ClientFailure) (latency : Option Binary64) : Real (.failure cause latency)

inductive SessionOutcome.Real : SessionOutcome → Prop where
  | completed {result : LookupResult} (hreal : result.Real) : Real (.completed result)
  | failed (message : String) : Real (.failed message)

variable {σ α β : Type}

namespace Session

/-- Whatever a piece of a session comes to, if it does not fail, has the property. -/
def Yields (P : α → Prop) (m : Session σ α) : Prop :=
  ∀ state a state', m state = (.ok a, state') → P a

theorem yields_any (m : Session σ α) : Yields (fun _ => True) m := fun _ _ _ _ => trivial

theorem yields_pure {P : α → Prop} {a : α} (h : P a) : Yields P (pure a : Session σ α) := by
  intro state a' state' heq
  cases heq
  exact h

theorem yields_bind {P : β → Prop} {Q : α → Prop} {m : Session σ α} {f : α → Session σ β}
    (hm : Yields Q m) (hf : ∀ a, Q a → Yields P (f a)) : Yields P (m >>= f) := by
  intro state b state' heq
  simp only [bind, ExceptT.bind, ExceptT.mk, StateT.bind] at heq
  cases hfirst : m state with
  | mk outcome s =>
      rw [hfirst] at heq
      cases outcome with
      | ok a => exact hf a (hm state a s hfirst) s b state' heq
      | error failure => cases heq

theorem yields_ite {P : α → Prop} {c : Prop} [Decidable c] {m m' : Session σ α}
    (hm : Yields P m) (hm' : Yields P m') : Yields P (if c then m else m') := by
  split
  · exact hm
  · exact hm'

theorem yields_lookup (s : Surroundings σ) (uri : String) (position : Position)
    (limit : Duration) : Yields LookupResult.Real (lookup s uri position limit) := by
  unfold lookup
  refine yields_bind (yields_any _) fun start _ => yields_bind (yields_any _) fun outcome _ =>
    yields_bind (yields_any _) fun stop _ => ?_
  cases outcome with
  | ok answer => exact yields_pure (.success _ _)
  | error failure => exact yields_pure (.failure _ _)

end Session

namespace Query

open Session

theorem yields_lookupInTime {P : LookupResult → Prop} {s : Surroundings σ} {config : Config}
    {case : Case} (hlookup : ∀ limit, Yields P (lookup s case.uri case.position limit)) :
    Yields (fun answer => ∀ result, answer = .ok result → P result)
      (lookupInTime s config case) := by
  unfold lookupInTime
  split
  · exact yields_pure fun result heq => by cases heq
  · refine yields_bind (hlookup _) fun result hresult => yields_pure fun r heq => ?_
    cases heq
    exact hresult

/-- What a session comes to is what its lookup comes to. -/
theorem yields_ask {P : Except DurationFault LookupResult → Prop} {s : Surroundings σ}
    {config : Config} {case : Case} (hlast : Yields P (lookupInTime s config case))
    (settings : Option Json) (rootUri text : String) (startLimit : Duration) :
    Yields P (ask s config settings rootUri text case startLimit) := by
  have hrest := yields_bind (yields_any (openDocument s case.uri text config.language)) fun _ _ =>
    yields_ite (c := 0 < config.warmup)
      (yields_bind (yields_any (modify (s.rest (.ofMilliseconds config.warmup)))) fun _ _ => hlast)
      hlast
  unfold ask
  refine yields_bind (yields_any _) fun said _ => ?_
  cases settings with
  | none => exact hrest
  | some settings => exact yields_bind (yields_any _) fun _ _ => hrest

theorem leave_cases (s : Surroundings σ) (config : Config) (name : String)
    (outcome : Except ClientFailure LookupResult) (state : σ × Client) :
    (∃ message, ((leave s config name outcome).run state).1 = .failed message) ∨
      ((leave s config name outcome).run state).1 = outcomeOf outcome := by
  unfold leave
  split
  · exact .inl ⟨_, rfl⟩
  · exact .inr rfl

/-- Whatever goes on around a client, its session breaks off or comes to what a lookup comes to. -/
theorem run_cases {P : LookupResult → Prop} {s : Surroundings σ} {config : Config} {case : Case}
    (hlookup : ∀ limit, Yields P (lookup s case.uri case.position limit)) (name : String)
    (settings : Option Json) (rootUri text : String) (state : σ × Client) :
    (∃ message, ((run s config name settings rootUri text case).run state).1 = .failed message) ∨
      ∃ result, ((run s config name settings rootUri text case).run state).1 = .completed result ∧
        P result := by
  unfold run
  split
  · exact .inl ⟨_, rfl⟩
  next startLimit _ =>
    have hlast : Yields (fun answer => ∀ result, answer = .ok result → P result)
        (lookupInTime s config case) := yields_lookupInTime hlookup
    have hask := yields_ask hlast settings rootUri text startLimit state
    simp only [bind, StateT.bind, StateT.run, ExceptT.run]
    generalize ask s config settings rootUri text case startLimit state = asked at hask
    obtain ⟨answer, state'⟩ := asked
    rcases answer with failure | fault | result
    · exact .inl ((leave_cases s config name (.error failure) state').elim id fun heq => ⟨_, heq⟩)
    · exact .inl ⟨_, rfl⟩
    · exact (leave_cases s config name (.ok result) state').imp id fun heq =>
        ⟨result, heq, hask _ _ rfl result rfl⟩

/-- Whatever goes on around a client, its session breaks off or comes to a lookup. -/
theorem real_run (s : Surroundings σ) (config : Config) (name : String) (settings : Option Json)
    (rootUri text : String) (case : Case) (state : σ × Client) :
    ((run s config name settings rootUri text case).run state).1.Real := by
  rcases run_cases (fun limit => yields_lookup s case.uri case.position limit) name settings rootUri
    text state with ⟨message, heq⟩ | ⟨result, heq, hreal⟩
  · rw [heq]
    exact .failed message
  · rw [heq]
    exact .completed hreal

end Query

/-! ### What the outside promises -/

namespace Benchmark

/-- Every contender finishes once in each run, in whatever order. -/
def Circumstances.EachOnce (c : Circumstances) : Prop :=
  ∀ root contenders run case,
    ((c.conduct root contenders run case).map Prod.fst).Perm (contenders.map (·.server.name))

/-- No session comes to anything that a session cannot come to. -/
def Circumstances.AllReal (c : Circumstances) : Prop :=
  ∀ root contenders run case, ∀ e ∈ c.conduct root contenders run case, e.2.Real

end Benchmark

namespace Host

theorem real_session (host : Host) (config : Config) (root : Path) (contender : Contender)
    (case : Case) : (host.session config root contender case).1.Real := by
  unfold session
  split
  · exact .failed _
  · dsimp only
    split
    · exact .failed _
    · exact Query.real_run Wire.surroundings config _ _ _ _ case _

theorem eachOnce_circumstances (host : Host) (config : Config) (seed : UInt64) (time : Binary64) :
    (host.circumstances config seed time).EachOnce := by
  intro root contenders run case
  simp only [circumstances, conduct, List.map_map]
  exact .refl _

theorem allReal_circumstances (host : Host) (config : Config) (seed : UInt64) (time : Binary64) :
    (host.circumstances config seed time).AllReal := by
  intro root contenders run case e hmem
  simp only [circumstances, conduct] at hmem
  obtain ⟨contender, -, rfl⟩ := List.mem_map.1 hmem
  exact real_session host config root contender case

end Host

/-! ### A small benchmark -/

namespace Benchmark

def smallConfig : Config :=
  .new (Path.ofString "/") [⟨"a", "a", [], none⟩, ⟨"b", "b", [], none⟩, ⟨"c", "c", [], none⟩]

/-- One source with one name in it. One server answers, one session breaks off, and the command of
the third leads nowhere. -/
def small : Circumstances where
  files := ⟨.directory [(Path.ofString "m.py", .file (Utf8.encode "x\n") false)], []⟩
  resolve command := if command = "c" then none else some (Path.ofString command)
  conduct _ contenders _ _ := contenders.map fun contender =>
    (contender.server.name, if contender.server.name = "a" then .completed (.success [] (.ofNat 1))
      else .failed "b: worker panicked")
  seed := 1
  time := .zero false

theorem eachOnce_small : small.EachOnce := by
  intro root contenders run case
  simp only [small, List.map_map]
  exact .refl _

theorem allReal_small : small.AllReal := by
  intro root contenders run case e hmem
  obtain ⟨contender, -, rfl⟩ := List.mem_map.1 hmem
  dsimp only
  split
  · exact .completed (.success _ _)
  · exact .failed _

theorem exists_report_small :
    ∃ report files, (run small smallConfig).result = .ok (report, files) := by
  have hok : (run small smallConfig).result.isOk = true := by decide +kernel
  cases hresult : (run small smallConfig).result with
  | error failure =>
      rw [hresult] at hok
      cases hok
  | ok outcome => exact ⟨outcome.1, outcome.2, rfl⟩

end Benchmark

end LookupBench
