import LookupBench.Json.Value
import LookupBench.Uri.Resolve

/-!
# Locations

Where a server says a definition is. Lines and characters count from zero; they are signed, since
what comes from a server may be anything. The raw answer to a lookup is null, one location, or an
array of them in either of two forms; whatever is malformed yields nothing and spoils nothing.
-/

namespace LookupBench

open scoped Power

structure Position where
  line : Int
  character : Int
  deriving DecidableEq, Repr

structure Range where
  start : Position
  stop : Position
  deriving DecidableEq, Repr

structure Location where
  uri : String
  range : Range
  deriving DecidableEq, Repr

def Position.isNonNegative (p : Position) : Bool := 0 ≤ p.line && 0 ≤ p.character

/-- A location is usable when its URI leads to a path, names of hosts being brought to ASCII in this
way, and no coordinate is negative. Whether it lies inside the tree that is sampled does not
matter. -/
def Location.isValidWith (toAscii : Uri.ToAscii) (l : Location) : Bool :=
  (Uri.resolve? l.uri toAscii).isSome && l.range.start.isNonNegative
    && l.range.stop.isNonNegative

def Location.isValid (l : Location) : Bool := l.isValidWith Uri.foldName?

namespace Location

def lowest : Int := -(2 ^ (63 : Nat))
def highest : Int := 2 ^ (63 : Nat) - 1

/-- A coordinate: an integer that a signed word of 64 bits holds, or else a number that has no
fractional part as a binary64 one, which is then brought within such words. -/
def coordinate? (v : Json) : Option Int :=
  v.asInt64?.or <| (v.asBinary64?.filter fun x => x.toInt?.isSome).map fun x =>
    x.truncateWithin lowest highest

def position? (v : Json) : Option Position := do
  let line ← coordinate? (← v.get? "line")
  let character ← coordinate? (← v.get? "character")
  pure ⟨line, character⟩

def range? (v : Json) : Option Range := do
  let start ← position? (← v.get? "start")
  let stop ← position? (← v.get? "end")
  pure ⟨start, stop⟩

/-- The URI and the range of an item. The form with a target is told by both of its keys. -/
def parts? (item : Json) : Option (Json × Json) :=
  match item.get? "targetUri", item.get? "targetRange" with
  | some uri, some range => some (uri, range)
  | _, _ => do pure (← item.get? "uri", ← item.get? "range")

def ofItem? (item : Json) : Option Location := do
  let (uri, range) ← parts? item
  pure ⟨← uri.asString?, ← range? range⟩

/-- The locations in a raw answer, in order. -/
def ofAnswer : Json → List Location
  | .null => []
  | .array items => items.filterMap ofItem?
  | item => (ofItem? item).toList

end Location

end LookupBench
