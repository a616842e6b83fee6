import LookupBench.Number.Binary64
import LookupBench.Table

/-!
# JSON values

Integers and binary64 numbers are kept apart, since they are written differently. The members of
an object stand in a list; read from a text, they are sorted by key and no key is repeated.
-/

namespace LookupBench

open scoped Power

inductive Json where
  | null
  | bool (value : Bool)
  | int (value : Int)
  | float (value : Binary64)
  | string (value : String)
  | array (items : List Json)
  | object (members : List (String × Json))
  deriving Inhabited, Repr

namespace Json

/-- An object with the given members, sorted by key; the last of a key counts. -/
def ofMembers (members : List (String × Json)) : Json :=
  .object (members.foldl (fun sorted (k, v) => putEntry k v sorted) [])

/-- The member of an object; other values have none. -/
def get? (key : String) : Json → Option Json
  | .object members => entryOf? key members
  | _ => none

def asString? : Json → Option String
  | .string s => some s
  | _ => none

def asArray? : Json → Option (List Json)
  | .array items => some items
  | _ => none

def isNull : Json → Bool
  | .null => true
  | _ => false

/-- Signed words of 64 bits. -/
def isInt64 (i : Int) : Bool := -(2 ^ (63 : Nat)) ≤ i && i < 2 ^ (63 : Nat)

/-- Unsigned words of 64 bits. -/
def isNat64 (i : Int) : Bool := 0 ≤ i && i < 2 ^ (64 : Nat)

def asInt64? : Json → Option Int
  | .int i => if isInt64 i then some i else none
  | _ => none

def asNat64? : Json → Option Nat
  | .int i => if isNat64 i then some i.toNat else none
  | _ => none

/-- A number as a binary64 one. An integer goes to the nearest. -/
def asBinary64? : Json → Option Binary64
  | .int i => some (.ofInt i)
  | .float x => some x
  | _ => none

end Json

end LookupBench
