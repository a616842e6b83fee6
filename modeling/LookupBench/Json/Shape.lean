import LookupBench.Json.Value

/-!
# Shapes of JSON data

A shape says which values are expected at a place: a record lists its fields in order, a choice its
labels. Data of a shape is itself a `Json` value in a normal form: the fields of a record stand in
declared order, an absent optional field is null, and a number that is expected as a binary64 one
is written as such.
-/

namespace LookupBench.Json

inductive Shape where
  | any
  | flag
  | text
  /-- An unsigned word; the name is the one used in messages. -/
  | natural (name : String)
  | integer
  | number
  | optional (item : Shape)
  | list (item : Shape)
  | table (item : Shape)
  | record (name : String) (fields : List (String × Shape))
  /-- Two records whose fields share one object. -/
  | merged (name : String) (inner own : List (String × Shape))
  | choice (labels : List String)
  deriving Inhabited

/-- The names under which values are reported. -/
inductive Found where
  | null
  | bool (value : Bool)
  | int (value : Int)
  | float (value : Binary64)
  | string (value : String)
  | sequence
  | map
  deriving Repr

def found : Json → Found
  | .null => .null
  | .bool b => .bool b
  | .int i => .int i
  | .float x => .float x
  | .string s => .string s
  | .array _ => .sequence
  | .object _ => .map

/-- Why data was refused. -/
inductive Cause where
  | endInList
  | endInObject
  | endInString
  | endInValue
  | noColon
  | noListComma
  | noObjectComma
  | noWord
  | noValue
  | badEscape
  | badNumber
  | numberRange
  | badUnicode
  | control
  | keyNotString
  | loneSurrogate
  | trailingComma
  | trailingText
  | halfSurrogate
  | tooDeep
  | wrongType (value : Found) (expected : String)
  | wrongValue (value : Found) (expected : String)
  | wrongLength (length : Nat) (expected : String)
  | missing (field : String)
  | repeated (field : String)
  | unknownLabel (label : String) (labels : List String)
  deriving Repr

namespace Shape

def structName (name : String) : String := "struct " ++ name

/-- What a shape is called when something else stands in its place. -/
def expected : Shape → String
  | any => "any valid JSON value"
  | flag => "a boolean"
  | text => "a string"
  | natural name => name
  | integer => "i64"
  | number => "f64"
  | optional _ => "option"
  | list _ => "a sequence"
  | table _ => "a map"
  | record name _ => structName name
  | merged name _ _ => structName name
  | choice _ => "variant identifier"

/-- How many fields a record has, in words. -/
def arity (name : String) (count : Nat) : String :=
  structName name ++ " with " ++ Nat.repr count ++ (if count = 1 then " element" else " elements")

def isOptional : Shape → Bool
  | optional _ => true
  | _ => false

/-- The fields of a record in declared order. An optional one may be absent. -/
def arrange (members : List (String × Json)) :
    List (String × Shape) → Except Cause (List (String × Json))
  | [] => .ok []
  | (name, shape) :: rest =>
    match entryOf? name members with
    | some v => (arrange members rest).map ((name, v) :: ·)
    | none =>
      if shape.isOptional then (arrange members rest).map ((name, Json.null) :: ·)
      else .error (.missing name)

/-- A number in the form that a shape asks for. -/
def ofNumber (shape : Shape) (value : Json) : Except Cause Json :=
  match shape, value with
  | natural name, .int i =>
    if isNat64 i then .ok (.int i) else .error (.wrongValue (.int i) name)
  | integer, .int i =>
    if isInt64 i then .ok (.int i) else .error (.wrongValue (.int i) "i64")
  | number, .int i => .ok (.float (Binary64.ofInt i))
  | number, .float x => .ok (.float x)
  | any, v => .ok v
  | s, v => .error (.wrongType v.found s.expected)

def fieldShape (name : String) : List (String × Shape) → Option Shape
  | [] => none
  | (n, s) :: rest => if n = name then some s else fieldShape name rest

/-- A label by itself, or as the single key of an object whose value says nothing. `loose` also
takes an empty object for that value. -/
def decodeChoice (loose : Bool) (labels : List String) : Json → Except Cause Json
  | .string s => if labels.contains s then .ok (.string s) else .error (.unknownLabel s labels)
  | .object [(s, v)] =>
    if !labels.contains s then .error (.unknownLabel s labels)
    else match v with
      | .null => .ok (.string s)
      | .object [] => if loose then .ok (.string s) else .error (.wrongType .map "unit")
      | v => .error (.wrongType v.found "unit")
  | .object _ => .error (.wrongValue .map "map with a single key")
  | v => .error (.wrongType v.found "string or map")

/-- What stands in a place that may be empty. -/
def required : Shape → Shape
  | optional item => required item
  | shape => shape

mutual

/-- Bring a value into a shape. `loose` is set for values that were read before their shape was
known. -/
def decode (loose : Bool) (shape : Shape) : Json → Except Cause Json
  | .null =>
    match shape with
    | any | optional _ => .ok .null
    | choice labels => decodeChoice loose labels .null
    | s => .error (.wrongType .null s.expected)
  | .array items =>
    match shape.required with
    | any => .ok (.array items)
    | list item => (decodeItems loose item items).map .array
    | record name fields =>
      (decodeFields loose (arity name fields.length) 0 items.length fields items).map .object
    | choice labels => decodeChoice loose labels (.array items)
    | s => .error (.wrongType .sequence s.expected)
  | .object members =>
    match shape.required with
    | any => .ok (.object members)
    | table item => (decodeTable loose item members).map .object
    | record _ fields =>
      match decodeMembers loose fields [] members with
      | .error e => .error e
      | .ok found => (arrange found fields).map .object
    | merged _ inner own =>
      match decodeMembers loose own [] members with
      | .error e => .error e
      | .ok found =>
        match arrange found own with
        | .error e => .error e
        | .ok ownFields =>
          let inner := inner.filter fun f => (fieldShape f.1 own).isNone
          match decodeMembers true inner [] members with
          | .error e => .error e
          | .ok found => (arrange found inner).map fun fields => .object (fields ++ ownFields)
    | choice labels => decodeChoice loose labels (.object members)
    | s => .error (.wrongType .map s.expected)
  | v =>
    match shape.required, v with
    | any, v => .ok v
    | flag, .bool b => .ok (.bool b)
    | text, .string s => .ok (.string s)
    | natural name, v => ofNumber (natural name) v
    | integer, v => ofNumber integer v
    | number, v => ofNumber number v
    | choice labels, v => decodeChoice loose labels v
    | s, v => .error (.wrongType v.found s.expected)

def decodeItems (loose : Bool) (item : Shape) : List Json → Except Cause (List Json)
  | [] => .ok []
  | v :: rest =>
    match decode loose item v with
    | .error e => .error e
    | .ok v => (decodeItems loose item rest).map (v :: ·)

def decodeTable (loose : Bool) (item : Shape) :
    List (String × Json) → Except Cause (List (String × Json))
  | [] => .ok []
  | (k, v) :: rest =>
    match decode loose item v with
    | .error e => .error e
    | .ok v => (decodeTable loose item rest).map ((k, v) :: ·)

/-- The fields of a record that is written as an array. -/
def decodeFields (loose : Bool) (arity : String) (index total : Nat)
    (fields : List (String × Shape)) : List Json → Except Cause (List (String × Json))
  | [] => if fields.isEmpty then .ok [] else .error (.wrongLength index arity)
  | v :: rest =>
    match fields with
    | [] => .error (.wrongLength total "fewer elements in array")
    | (name, shape) :: fields =>
      match decode loose shape v with
      | .error e => .error e
      | .ok v => (decodeFields loose arity (index + 1) total fields rest).map ((name, v) :: ·)

/-- The members that are fields, in the order they are written. -/
def decodeMembers (loose : Bool) (fields : List (String × Shape)) (seen : List String) :
    List (String × Json) → Except Cause (List (String × Json))
  | [] => .ok []
  | (k, v) :: rest =>
    match fieldShape k fields with
    | none => decodeMembers loose fields seen rest
    | some shape =>
      if seen.contains k then .error (.repeated k)
      else match decode loose shape v with
        | .error e => .error e
        | .ok v => (decodeMembers loose fields (k :: seen) rest).map ((k, v) :: ·)

end

end Shape

end LookupBench.Json
