import LookupBench.Number.Parse
import LookupBench.Text.Quoted
import LookupBench.Yaml.Node

/-!
# What scalars mean

A plain scalar is null, a truth value, a number or a text, by its spelling alone. A tag of the core
schema asks for one of these; any other tag leaves the choice to the spelling.
-/

namespace LookupBench.Yaml

open scoped Power

/-- The names under which parts of a document are reported. -/
inductive Found where
  | unit
  | bool (value : Bool)
  | int (value : Int)
  /-- An integer that needs a word of 128 bits. -/
  | wide (value : Int)
  | float (value : Binary64)
  | text (value : String)
  | sequence
  | map
  | choice
  deriving Repr

/-- The value of digits in a base; there must be one, and less than the bound. -/
def digits? (base bound : Nat) (cs : List Char) : Option Nat := do
  guard (!cs.isEmpty)
  let values ← cs.mapM fun c => (hexValue? c).filter (· < base)
  let n := values.foldl (fun n d => base * n + d) 0
  guard (n < bound)
  return n

/-- The base that a prefix stands for, and what follows it. -/
def base? : List Char → Option (Nat × List Char)
  | '0' :: 'x' :: rest => some (16, rest)
  | '0' :: 'o' :: rest => some (8, rest)
  | '0' :: 'b' :: rest => some (2, rest)
  | _ => none

def dropSign : List Char → List Char
  | '-' :: rest | '+' :: rest => rest
  | cs => cs

/-- Digits behind a leading zero are no number. -/
def isZeroLed (cs : List Char) : Bool :=
  match dropSign cs with
  | '0' :: d :: rest => (d :: rest).all isDigit
  | _ => false

/-- A number without a minus sign. -/
def unsigned? (bound : Nat) (cs : List Char) : Option Nat :=
  let body := match cs with
    | '+' :: rest => rest
    | _ => cs
  match base? body with
  | some (base, rest) => digits? base bound rest
  | none => if isZeroLed cs then none else digits? 10 bound body

/-- A number with a minus sign; its magnitude is less than the bound or equal to it. -/
def negative? (bound : Nat) : List Char → Option Int
  | '-' :: rest => do
    let n ← match base? rest with
      | some (base, rest) => digits? base (bound + 1) rest
      | none => if isZeroLed rest then none else digits? 10 (bound + 1) rest
    return -(n : Int)
  | _ => none

def nat64? (s : String) : Option Nat := unsigned? (2 ^ (64 : Nat)) s.toList

def integer? (s : String) : Option Found :=
  let cs := s.toList
  match unsigned? (2 ^ (64 : Nat)) cs, negative? (2 ^ (63 : Nat)) cs with
  | some n, _ => some (.int n)
  | none, some i => some (.int i)
  | none, none =>
    match unsigned? (2 ^ (128 : Nat)) cs, negative? (2 ^ (127 : Nat)) cs with
    | some n, _ => some (.wide n)
    | none, some i => some (.wide i)
    | none, none => none

def float? (s : String) : Option Binary64 :=
  let body := match s.toList with
    | '+' :: rest => rest
    | cs => cs
  let plus := s.startsWith "+"
  if plus && (body.head? = some '+' || body.head? = some '-') then none
  else if [".inf", ".Inf", ".INF"].contains (String.ofList body) then some (.infinity false)
  else if ["-.inf", "-.Inf", "-.INF"].contains s then some (.infinity true)
  else if [".nan", ".NaN", ".NAN"].contains s then some .nan
  else (parseBinary64? body).filter (·.isFinite)

def isNull (s : String) : Bool := ["null", "Null", "NULL", "~"].contains s

def truth? (s : String) : Option Bool :=
  if ["true", "True", "TRUE"].contains s then some true
  else if ["false", "False", "FALSE"].contains s then some false
  else none

/-- What a plain scalar means. -/
def plain (s : String) : Found :=
  if s.isEmpty || isNull s then .unit
  else match truth? s with
    | some b => .bool b
    | none =>
      match integer? s with
      | some found => found
      | none =>
        match if isZeroLed s.toList then none else float? s with
        | some x => .float x
        | none => .text s

/-- Why a part of a document was refused. -/
inductive Misfit where
  | wrongType (found : Found) (expected : String)
  | wrongValue (text : String) (expected : String)
  | missing (field : String)
  | repeated (field : String)
  | numberRange
  deriving Repr

inductive CoreTag where
  | bool
  | int
  | float
  | null
  deriving DecidableEq, Repr

namespace CoreTag

def octets (name : String) : Bytes := Utf8.encode ("tag:yaml.org,2002:" ++ name)

def ofOctets? (tag : Bytes) : Option CoreTag :=
  if tag = octets "bool" then some bool
  else if tag = octets "int" then some int
  else if tag = octets "float" then some float
  else if tag = octets "null" then some null
  else none

/-- What a scalar means that is tagged so. -/
def read (s : String) : CoreTag → Except Misfit Found
  | bool => ((truth? s).map Found.bool).elim (.error (.wrongValue s "a boolean")) .ok
  | int => (integer? s).elim (.error (.wrongValue s "an integer")) .ok
  | float => ((float? s).map Found.float).elim (.error (.wrongValue s "a float")) .ok
  | null => if isNull s then .ok .unit else .error (.wrongValue s "null")

end CoreTag

/-- A tag of the document's own, which a value of any shape may carry. -/
def isLocal (tag : Bytes) : Bool := tag.head? = some 33

/-- A local tag that can be named. It makes a value a choice. -/
def isChoice (tag : Option Bytes) : Bool :=
  tag.any fun t => isLocal t && (Utf8.decode? (if t.length = 1 then t else t.drop 1)).isSome

/-- What a scalar means. -/
def resolve (tag : Option Bytes) (style : Style) (s : String) : Except Misfit Found :=
  match tag with
  | none => .ok (if style = .plain then plain s else .text s)
  | some tag =>
    match CoreTag.ofOctets? tag with
    | some core => core.read s
    | none => .ok (if isLocal tag && style = .plain then plain s else .text s)

/-- Whether a value of a kind may be written so: plainly, or as a literal block with the tag of the
kind. -/
def mayStandFor (core : CoreTag) (tag : Option Bytes) (style : Style) : Bool :=
  style = .plain || (style = .literal && tag.bind CoreTag.ofOctets? = some core)

def Found.describe : Found → String
  | .unit => "unit value"
  | .bool b => "boolean `" ++ (if b then "true" else "false") ++ "`"
  | .int i => "integer `" ++ Decimal.intText i ++ "`"
  | .wide i => "integer `" ++ Decimal.intText i ++ "` as " ++ (if 0 ≤ i then "u128" else "i128")
  | .float x => "floating point `" ++ String.ofList x.plainText ++ "`"
  | .text s => "string " ++ quoted s
  | .sequence => "sequence"
  | .map => "map"
  | .choice => "enum"

def Misfit.message : Misfit → String
  | .wrongType found expected => "invalid type: " ++ found.describe ++ ", expected " ++ expected
  | .wrongValue s expected => "invalid value: string " ++ quoted s ++ ", expected " ++ expected
  | .missing field => "missing field `" ++ field ++ "`"
  | .repeated field => "duplicate field `" ++ field ++ "`"
  | .numberRange => "JSON number out of range"

end LookupBench.Yaml
