import LookupBench.Results.Bucket
import LookupBench.Sampling.Case
import LookupBench.Table

/-!
# Reports

What a benchmark found: for each run the case and every server's answer to it, and for each server
a summary. An answer with no usable location is listed as unresolved, with the reason.
-/

namespace LookupBench

/-- A case as it is reported, with positions counted from zero and from one. -/
structure PickedCase where
  file : String
  uri : String
  line : Int
  character : Int
  lineFromOne : Int
  characterFromOne : Int
  token : String
  kind : OccurrenceKind
  lineText : String
  deriving DecidableEq, Repr

structure LocationRecord where
  uri : String
  start : Position
  stop : Position
  valid : Bool
  deriving DecidableEq, Repr

/-- What one server made of one case. -/
structure ServerCaseResult where
  ok : Bool
  found : Bool
  count : Nat
  latency : Option Binary64
  error : Option String
  locations : List LocationRecord
  deriving DecidableEq, Repr

inductive UnresolvedReason where
  | noDefinitionLocations
  | noValidFileLocation
  | serverException
  | serverUnavailable
  deriving DecidableEq, Repr

structure Unresolved where
  picked : PickedCase
  reason : UnresolvedReason
  error : Option String
  deriving DecidableEq, Repr

structure CaseRecord where
  run : Nat
  picked : PickedCase
  results : Table ServerCaseResult
  unresolved : Table Unresolved
  deriving DecidableEq

/-- A whole report. The seed is a word of 64 bits; `time` is when the report was begun, in
seconds. -/
structure Report where
  root : String
  seed : Nat
  runs : Nat
  servers : List String
  cases : List CaseRecord
  summary : Table ServerSummary
  time : Binary64
  deriving DecidableEq

/-- A sum that no word holds. -/
inductive Overflow where
  | addition
  deriving DecidableEq, Repr

def Overflow.message : Overflow → String
  | addition => "attempt to add with overflow"

/-- The next number, within signed words of 64 bits. -/
def oneMore (i : Int) : Except Overflow Int :=
  if i < Location.highest then .ok (i + 1) else .error .addition

def PickedCase.ofCase (c : Case) : Except Overflow PickedCase := do
  let lineFromOne ← oneMore c.position.line
  let characterFromOne ← oneMore c.position.character
  pure {
    file := c.file.display
    uri := c.uri
    line := c.position.line
    character := c.position.character
    lineFromOne
    characterFromOne
    token := c.token
    kind := c.kind
    lineText := c.lineText }

namespace ServerCaseResult

/-- A lookup as it is reported, with every location checked. -/
def ofResult (r : LookupResult) : ServerCaseResult where
  ok := r.ok
  found := r.found
  count := r.count
  latency := r.latency
  error := r.error
  locations := r.locations.map fun l => ⟨l.uri, l.range.start, l.range.stop, l.isValid⟩

/-- A run in which there was no lookup at all. -/
def failed (error : String) : ServerCaseResult where
  ok := false
  found := false
  count := 0
  latency := none
  error := some error
  locations := []

def anyValid (r : ServerCaseResult) : Bool := r.locations.any (·.valid)

/-- Why an answer does not count as resolved, if it does not. -/
def unresolvedReason (r : ServerCaseResult) : Option UnresolvedReason :=
  if r.locations.isEmpty then some .noDefinitionLocations
  else if r.anyValid then none
  else some .noValidFileLocation

end ServerCaseResult

namespace UnresolvedReason

def all : List UnresolvedReason :=
  [noDefinitionLocations, noValidFileLocation, serverException, serverUnavailable]

def label : UnresolvedReason → String
  | noDefinitionLocations => "no_definition_locations"
  | noValidFileLocation => "no_valid_file_location"
  | serverException => "server_exception"
  | serverUnavailable => "server_unavailable"

def ofLabel? (s : String) : Option UnresolvedReason := all.find? fun r => r.label = s

end UnresolvedReason

/-- The record of a run that nothing has come of yet. -/
def CaseRecord.new (run : Nat) (c : Case) : Except Overflow CaseRecord :=
  (PickedCase.ofCase c).map fun picked => ⟨run, picked, .empty, .empty⟩

/-- The report of a benchmark that is about to begin. -/
def Report.new (root : Path) (seed : UInt64) (runs : Nat) (servers : List String)
    (time : Binary64) : Report where
  root := root.display
  seed := seed.toNat
  runs
  servers
  cases := []
  summary := .empty
  time

end LookupBench
