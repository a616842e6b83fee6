import LookupBench.Json.Shape
import LookupBench.Number.Shortest
import LookupBench.Text.Quoted

/-!
# Messages about JSON data

The wording of each cause, and of a failure that knows where in the text it lies.
-/

namespace LookupBench.Json

def Found.describe : Found → String
  | .null => "null"
  | .bool b => "boolean `" ++ (if b then "true" else "false") ++ "`"
  | .int i => "integer `" ++ Decimal.intText i ++ "`"
  | .float x => "floating point `" ++ String.ofList x.jsonText ++ "`"
  | .string s => "string " ++ quoted s
  | .sequence => "sequence"
  | .map => "map"

def ticked (s : String) : String := "`" ++ s ++ "`"

/-- The labels that would have been right. -/
def oneOf : List String → String
  | [] => "there are no variants"
  | [a] => "expected " ++ ticked a
  | [a, b] => "expected " ++ ticked a ++ " or " ++ ticked b
  | labels => "expected one of " ++ ", ".intercalate (labels.map ticked)

def Cause.message : Cause → String
  | .endInList => "EOF while parsing a list"
  | .endInObject => "EOF while parsing an object"
  | .endInString => "EOF while parsing a string"
  | .endInValue => "EOF while parsing a value"
  | .noColon => "expected `:`"
  | .noListComma => "expected `,` or `]`"
  | .noObjectComma => "expected `,` or `\x7d`"
  | .noWord => "expected ident"
  | .noValue => "expected value"
  | .badEscape => "invalid escape"
  | .badNumber => "invalid number"
  | .numberRange => "number out of range"
  | .badUnicode => "invalid unicode code point"
  | .control => "control character (\\u0000-\\u001F) found while parsing a string"
  | .keyNotString => "key must be a string"
  | .loneSurrogate => "lone leading surrogate in hex escape"
  | .trailingComma => "trailing comma"
  | .trailingText => "trailing characters"
  | .halfSurrogate => "unexpected end of hex escape"
  | .tooDeep => "recursion limit exceeded"
  | .wrongType value expected => "invalid type: " ++ value.describe ++ ", expected " ++ expected
  | .wrongValue value expected => "invalid value: " ++ value.describe ++ ", expected " ++ expected
  | .wrongLength n expected =>
    "invalid length " ++ Decimal.natText n ++ ", expected " ++ expected
  | .missing field => "missing field " ++ ticked field
  | .repeated field => "duplicate field " ++ ticked field
  | .unknownLabel label labels => "unknown variant " ++ ticked label ++ ", " ++ oneOf labels

/-- A place in a text: lines from one, columns in octets. -/
structure Place where
  line : Nat
  column : Nat
  deriving DecidableEq, Repr

/-- A refusal. Data that was not read from a text has no place. -/
structure Failure where
  cause : Cause
  place : Option Place
  deriving Repr

def Failure.message (e : Failure) : String :=
  match e.place with
  | none => e.cause.message
  | some p => e.cause.message ++ " at line " ++ Decimal.natText p.line ++ " column "
      ++ Decimal.natText p.column

end LookupBench.Json
