import LookupBench.Json.Shape
import LookupBench.Results.Report

/-!
# Reports as data

Every part of a report as a JSON value, the shape of that value, and the way back. A number that is
not finite has no form in JSON; null is written for it. An unresolved answer shares one object with
its case, and a missing error is left out there.
-/

namespace LookupBench

namespace Json

def ofBinary64 (x : Binary64) : Json := if x.isFinite then .float x else .null

def ofOption {α : Type} (write : α → Json) : Option α → Json
  | some a => write a
  | none => .null

def ofTable {α : Type} (write : α → Json) (t : Table α) : Json :=
  .object (t.entries.map fun (name, a) => (name, write a))

/-! The parts of data that has a shape. -/

def part (key : String) (v : Json) : Json := (v.get? key).getD .null

def asFlag (v : Json) : Bool :=
  match v with
  | .bool b => b
  | _ => false

def asText (v : Json) : String := v.asString?.getD ""

def asInteger (v : Json) : Int :=
  match v with
  | .int i => i
  | _ => 0

def asNatural (v : Json) : Nat := v.asInteger.toNat

def asNumber (v : Json) : Binary64 :=
  match v with
  | .float x => x
  | _ => .zero false

def asOption {α : Type} (read : Json → α) : Json → Option α
  | .null => none
  | v => some (read v)

def asList {α : Type} (read : Json → α) : Json → List α
  | .array items => items.map read
  | _ => []

def asTable {α : Type} (read : Json → α) : Json → Table α
  | .object members => .ofList (members.map fun (name, v) => (name, read v))
  | _ => .empty

end Json

open Json

namespace Position

def fields : List (String × Shape) := [("line", .integer), ("character", .integer)]

def shape : Shape := .record "Position" fields

def toJson (p : Position) : Json := .object [("line", .int p.line), ("character", .int p.character)]

def ofData (v : Json) : Position := ⟨(v.part "line").asInteger, (v.part "character").asInteger⟩

end Position

namespace OccurrenceKind

def shape : Shape := .choice (all.map label)

def toJson (k : OccurrenceKind) : Json := .string k.label

def ofData (v : Json) : OccurrenceKind := (ofLabel? v.asText).getD .name

end OccurrenceKind

namespace PickedCase

def fields : List (String × Shape) :=
  [("file", .text), ("uri", .text), ("line", .integer), ("character", .integer),
    ("line_1b", .integer), ("character_1b", .integer), ("token", .text),
    ("kind", OccurrenceKind.shape), ("line_text", .text)]

def members (c : PickedCase) : List (String × Json) :=
  [("file", .string c.file), ("uri", .string c.uri), ("line", .int c.line),
    ("character", .int c.character), ("line_1b", .int c.lineFromOne),
    ("character_1b", .int c.characterFromOne), ("token", .string c.token),
    ("kind", c.kind.toJson), ("line_text", .string c.lineText)]

def ofData (v : Json) : PickedCase where
  file := (v.part "file").asText
  uri := (v.part "uri").asText
  line := (v.part "line").asInteger
  character := (v.part "character").asInteger
  lineFromOne := (v.part "line_1b").asInteger
  characterFromOne := (v.part "character_1b").asInteger
  token := (v.part "token").asText
  kind := .ofData (v.part "kind")
  lineText := (v.part "line_text").asText

end PickedCase

namespace LocationRecord

def shape : Shape :=
  .record "LocationRecord"
    [("uri", .text), ("start", Position.shape), ("end", Position.shape), ("valid", .flag)]

def toJson (l : LocationRecord) : Json :=
  .object [("uri", .string l.uri), ("start", l.start.toJson), ("end", l.stop.toJson),
    ("valid", .bool l.valid)]

def ofData (v : Json) : LocationRecord :=
  ⟨(v.part "uri").asText, .ofData (v.part "start"), .ofData (v.part "end"),
    (v.part "valid").asFlag⟩

end LocationRecord

namespace ServerCaseResult

def shape : Shape :=
  .record "ServerCaseResult"
    [("ok", .flag), ("found", .flag), ("n_locations", .natural "usize"),
      ("latency_ms", .optional .number), ("error", .optional .text),
      ("locations", .list LocationRecord.shape)]

def toJson (r : ServerCaseResult) : Json :=
  .object [("ok", .bool r.ok), ("found", .bool r.found), ("n_locations", .int r.count),
    ("latency_ms", .ofOption .ofBinary64 r.latency), ("error", .ofOption .string r.error),
    ("locations", .array (r.locations.map LocationRecord.toJson))]

def ofData (v : Json) : ServerCaseResult where
  ok := (v.part "ok").asFlag
  found := (v.part "found").asFlag
  count := (v.part "n_locations").asNatural
  latency := (v.part "latency_ms").asOption asNumber
  error := (v.part "error").asOption asText
  locations := (v.part "locations").asList LocationRecord.ofData

end ServerCaseResult

namespace UnresolvedReason

def shape : Shape := .choice (all.map label)

def ofData (v : Json) : UnresolvedReason := (ofLabel? v.asText).getD .noDefinitionLocations

end UnresolvedReason

namespace Unresolved

def shape : Shape :=
  .merged "Unresolved" PickedCase.fields
    [("reason", UnresolvedReason.shape), ("error", .optional .text)]

def toJson (u : Unresolved) : Json :=
  .object (u.picked.members ++ ("reason", .string u.reason.label)
    :: (u.error.map fun e => ("error", Json.string e)).toList)

def ofData (v : Json) : Unresolved :=
  ⟨.ofData v, .ofData (v.part "reason"), (v.part "error").asOption asText⟩

end Unresolved

namespace CaseRecord

def shape : Shape :=
  .record "CaseRecord"
    [("run", .natural "usize"), ("picked", .record "PickedCase" PickedCase.fields),
      ("results", .table ServerCaseResult.shape), ("unresolved", .table Unresolved.shape)]

def toJson (c : CaseRecord) : Json :=
  .object [("run", .int c.run), ("picked", .object c.picked.members),
    ("results", .ofTable ServerCaseResult.toJson c.results),
    ("unresolved", .ofTable Unresolved.toJson c.unresolved)]

def ofData (v : Json) : CaseRecord where
  run := (v.part "run").asNatural
  picked := .ofData (v.part "picked")
  results := (v.part "results").asTable ServerCaseResult.ofData
  unresolved := (v.part "unresolved").asTable Unresolved.ofData

end CaseRecord

namespace LatencyStats

def shape : Shape :=
  .record "LatencyStats"
    [("count", .natural "usize"), ("p50", .optional .number), ("p95", .optional .number),
      ("min", .optional .number), ("max", .optional .number), ("mean", .optional .number)]

def toJson (s : LatencyStats) : Json :=
  .object [("count", .int s.count), ("p50", .ofOption .ofBinary64 s.p50),
    ("p95", .ofOption .ofBinary64 s.p95), ("min", .ofOption .ofBinary64 s.min),
    ("max", .ofOption .ofBinary64 s.max), ("mean", .ofOption .ofBinary64 s.mean)]

def ofData (v : Json) : LatencyStats where
  count := (v.part "count").asNatural
  p50 := (v.part "p50").asOption asNumber
  p95 := (v.part "p95").asOption asNumber
  min := (v.part "min").asOption asNumber
  max := (v.part "max").asOption asNumber
  mean := (v.part "mean").asOption asNumber

end LatencyStats

namespace ServerSummary

def shape : Shape :=
  .record "ServerSummary"
    [("ok", .natural "usize"), ("ok_pct", .number), ("found", .natural "usize"),
      ("found_pct", .number), ("valid", .natural "usize"), ("valid_pct", .number),
      ("errors", .natural "usize"), ("timeouts", .natural "usize"),
      ("latency_ms", LatencyStats.shape)]

def toJson (s : ServerSummary) : Json :=
  .object [("ok", .int s.ok), ("ok_pct", .ofBinary64 s.okPercent), ("found", .int s.found),
    ("found_pct", .ofBinary64 s.foundPercent), ("valid", .int s.valid),
    ("valid_pct", .ofBinary64 s.validPercent), ("errors", .int s.errors),
    ("timeouts", .int s.timeouts), ("latency_ms", s.latency.toJson)]

def ofData (v : Json) : ServerSummary where
  ok := (v.part "ok").asNatural
  okPercent := (v.part "ok_pct").asNumber
  found := (v.part "found").asNatural
  foundPercent := (v.part "found_pct").asNumber
  valid := (v.part "valid").asNatural
  validPercent := (v.part "valid_pct").asNumber
  errors := (v.part "errors").asNatural
  timeouts := (v.part "timeouts").asNatural
  latency := .ofData (v.part "latency_ms")

end ServerSummary

namespace Report

def shape : Shape :=
  .record "Report"
    [("root", .text), ("seed", .natural "u64"), ("runs", .natural "usize"),
      ("servers", .list .text), ("cases", .list CaseRecord.shape),
      ("summary", .table ServerSummary.shape), ("ts", .number)]

def toJson (r : Report) : Json :=
  .object [("root", .string r.root), ("seed", .int r.seed), ("runs", .int r.runs),
    ("servers", .array (r.servers.map .string)), ("cases", .array (r.cases.map CaseRecord.toJson)),
    ("summary", .ofTable ServerSummary.toJson r.summary), ("ts", .ofBinary64 r.time)]

def ofData (v : Json) : Report where
  root := (v.part "root").asText
  seed := (v.part "seed").asNatural
  runs := (v.part "runs").asNatural
  servers := (v.part "servers").asList asText
  cases := (v.part "cases").asList CaseRecord.ofData
  summary := (v.part "summary").asTable ServerSummary.ofData
  time := (v.part "ts").asNumber

end Report

end LookupBench
