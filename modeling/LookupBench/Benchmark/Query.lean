import LookupBench.Client.Session
import LookupBench.Config.Basic
import LookupBench.Sampling.Case

/-!
# One case, one server

A session from the greeting to the farewell, with one lookup in it. The farewell is said whatever
came before it, unless a limit is no span of time at all; then the session breaks off.
-/

namespace LookupBench

/-- What came of one session. -/
inductive SessionOutcome where
  | completed (result : LookupResult)
  | failed (message : String)

namespace Query

variable {σ : Type}

/-- The lookup, for as long as it may take. -/
def lookupInTime (s : Surroundings σ) (config : Config) (case : Case) :
    Session σ (Except DurationFault LookupResult) := do
  match Duration.ofSeconds config.timeout with
  | .error fault => return .error fault
  | .ok limit => return .ok (← Session.lookup s case.uri case.position limit)

/-- Everything up to the lookup and the lookup itself. -/
def ask (s : Surroundings σ) (config : Config) (settings : Option Json) (rootUri text : String)
    (case : Case) (startLimit : Duration) : Session σ (Except DurationFault LookupResult) := do
  let _ ← Session.handshake s rootUri startLimit
  if let some settings := settings then Session.configure s settings
  Session.openDocument s case.uri text config.language
  if 0 < config.warmup then modify (s.rest (.ofMilliseconds config.warmup))
  lookupInTime s config case

/-- How a session that broke off is reported. -/
def brokenOff (name : String) (fault : DurationFault) : SessionOutcome :=
  .failed (name ++ ": " ++ fault.message)

def outcomeOf : Except ClientFailure LookupResult → SessionOutcome
  | .ok result => .completed result
  | .error failure => .failed failure.message

/-- Say goodbye. -/
def leave (s : Surroundings σ) (config : Config) (name : String)
    (outcome : Except ClientFailure LookupResult) : StateM (σ × Client) SessionOutcome := do
  match Duration.ofSeconds config.stopTimeout with
  | .error fault => return brokenOff name fault
  | .ok limit =>
    let _ ← (Session.shutdown s limit).run
    return outcomeOf outcome

/-- The whole session. -/
def run (s : Surroundings σ) (config : Config) (name : String) (settings : Option Json)
    (rootUri text : String) (case : Case) : StateM (σ × Client) SessionOutcome := do
  match Duration.ofSeconds config.startTimeout with
  | .error fault => return brokenOff name fault
  | .ok startLimit =>
    match ← (ask s config settings rootUri text case startLimit).run with
    | .ok (.ok result) => leave s config name (.ok result)
    | .ok (.error fault) => return brokenOff name fault
    | .error failure => leave s config name (.error failure)

end Query

end LookupBench
