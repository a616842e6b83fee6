import LookupBench.Json.Message
import LookupBench.Text.Utf8

/-!
# Reading JSON texts

One reader for all shapes: data is checked against its shape while it is read, so that of several
faults the first one in the text is reported. A reader keeps its place also when it fails, because
the place of some faults is only settled by what follows them: the end of an array or object is
looked for even after a fault inside it.

Containers nest at most 127 deep.
-/

namespace LookupBench.Json

open scoped Power

/-- What is left of the input, and the place reached. -/
structure Cursor where
  rest : Bytes
  line : Nat
  column : Nat
  deriving Repr

namespace Cursor

def start (input : Bytes) : Cursor := ⟨input, 1, 0⟩

def place (c : Cursor) : Place := ⟨c.line, c.column⟩

def advance (c : Cursor) : Cursor :=
  match c.rest with
  | [] => c
  | b :: rest => if b = 10 then ⟨rest, c.line + 1, 0⟩ else ⟨rest, c.line, c.column + 1⟩

def isBlankByte (b : UInt8) : Bool := b = 32 || b = 10 || b = 9 || b = 13

/-- Pass octets as long as the test holds. -/
def skipWhile (p : UInt8 → Bool) (rest : Bytes) (line column : Nat) : Cursor :=
  match rest with
  | [] => ⟨[], line, column⟩
  | b :: rest' =>
    if p b then
      if b = 10 then skipWhile p rest' (line + 1) 0 else skipWhile p rest' line (column + 1)
    else ⟨b :: rest', line, column⟩

def skipBlank (c : Cursor) : Cursor := skipWhile isBlankByte c.rest c.line c.column

end Cursor

/-- A failure whose place is not settled yet, or is. -/
abbrev Reader := EStateM Failure Cursor

namespace Reader

/-- Fail without a place; an enclosing reader settles it. -/
def refuse {α : Type} (cause : Cause) : Reader α := throw ⟨cause, none⟩

/-- Fail behind the last octet taken. -/
def failHere {α : Type} (cause : Cause) : Reader α := fun c => .error ⟨cause, some c.place⟩ c

/-- Fail at the octet that comes next. -/
def failNext {α : Type} (cause : Cause) : Reader α := fun c =>
  .error ⟨cause, some c.advance.place⟩ c

/-- Settle the place of a failure that has none. -/
def placed {α : Type} (r : Reader α) : Reader α := fun c =>
  match r c with
  | .ok a c => .ok a c
  | .error e c => .error ⟨e.cause, some (e.place.getD c.place)⟩ c

/-- Read a body and what closes it. A failure of the body wins, and yet the close is looked for. -/
def closedBy {α : Type} (body : Reader α) (close : Reader Unit) : Reader α := fun c =>
  match body c with
  | .ok a c =>
    match close c with
    | .ok _ c => .ok a c
    | .error e c => .error e c
  | .error e c =>
    match close c with
    | .ok _ c => .error e c
    | .error _ c => .error e c

def peek : Reader (Option UInt8) := fun c => .ok c.rest.head? c

def advance : Reader Unit := fun c => .ok () c.advance

/-- The next octet that is no blank. -/
def peekToken : Reader (Option UInt8) := fun c =>
  let c := c.skipBlank
  .ok c.rest.head? c

def take : Reader (Option UInt8) := fun c => .ok c.rest.head? c.advance

def of {α : Type} (result : Except Cause α) : Reader α :=
  match result with
  | .ok a => pure a
  | .error cause => refuse cause

/-! ### Words and numbers -/

/-- The rest of a word whose first letter is taken. -/
def word : Bytes → Reader Unit
  | [] => pure ()
  | b :: rest => do
    match ← take with
    | none => failHere .endInValue
    | some c => if c = b then word rest else failHere .noWord

def isDigit (b : UInt8) : Bool := 48 ≤ b && b ≤ 57

/-- A run of digits, passed. -/
def digits : Reader Bytes := fun c =>
  let ds := c.rest.takeWhile isDigit
  .ok ds (Cursor.skipWhile isDigit c.rest c.line c.column)

def decimal (ds : Bytes) : Nat := ds.foldl (fun n d => 10 * n + (d.toNat - 48)) 0

def isExponentMark (b : Option UInt8) : Bool := b = some 101 || b = some 69

/-- The digits of an exponent, up to one that takes it past 31 bits; the flag tells of that. -/
def exponentDigits : Nat → Bytes → Nat × Nat × Bool
  | n, [] => (n, 0, false)
  | n, d :: rest =>
    if isDigit d then
      let m := 10 * n + (d.toNat - 48)
      if 2 ^ (31 : Nat) ≤ m then (n, 1, true)
      else
        let (value, count, outside) := exponentDigits m rest
        (value, count + 1, outside)
    else (n, 0, false)

def passed (n : Nat) (c : Cursor) : Cursor := ⟨c.rest.drop n, c.line, c.column + n⟩

/-- A number that the format holds. -/
def finite (x : Binary64) : Reader Json :=
  if x.isFinite then pure (.float x) else failHere .numberRange

/-- The number with these digits before the exponent, whose mark and sign are taken. -/
def signedExponent (negative positive : Bool) (significand scale : Nat) : Reader Json := do
  match ← take with
  | none => failHere .endInValue
  | some d =>
    if !isDigit d then failHere .badNumber
    let (value, count, outside) := exponentDigits (d.toNat - 48) (← get).rest
    modify (passed count)
    if outside then
      if significand ≠ 0 && positive then failHere .numberRange
      let _ ← digits
      pure (.float (.zero negative))
    else
      let e : Int := if positive then value else -value
      finite (Binary64.ofDecimal negative significand (e - scale))

/-- The number with these digits before the exponent mark, which comes next. -/
def exponent (negative : Bool) (significand scale : Nat) : Reader Json := do
  advance
  let next ← peek
  if next = some 43 || next = some 45 then advance
  signedExponent negative (next != some 45) significand scale

/-- The number with these digits before the point, which is taken. -/
def fraction (negative : Bool) (whole : Bytes) : Reader Json := do
  let places ← digits
  if places.isEmpty then
    match ← peek with
    | some _ => failNext .badNumber
    | none => failNext .endInValue
  else
    let significand := decimal (whole ++ places)
    if isExponentMark (← peek) then exponent negative significand places.length
    else finite (Binary64.ofDecimal negative significand (-places.length))

/-- A number that is an integer within 64 bits stays one; a negative zero does not. -/
def ofInteger (negative : Bool) (n : Nat) : Reader Json :=
  if !negative && n < 2 ^ (64 : Nat) then pure (.int n)
  else if negative && n ≠ 0 && n ≤ 2 ^ (63 : Nat) then pure (.int (-n))
  else finite (Binary64.ofDecimal negative n 0)

/-- The digits behind the first one; a zero has none behind it. -/
def moreDigits (d : UInt8) : Reader Bytes := do
  if d = 48 then
    match ← peek with
    | some b => if isDigit b then failNext .badNumber else pure []
    | none => pure []
  else digits

/-- A number; its sign is taken. -/
def number (negative : Bool) : Reader Json := do
  match ← take with
  | none => failHere .endInValue
  | some d =>
    if !isDigit d then failHere .badNumber
    let whole := d :: (← moreDigits d)
    match ← peek with
    | some 46 => advance; fraction negative whole
    | next =>
      if isExponentMark next then exponent negative (decimal whole) 0
      else ofInteger negative (decimal whole)

/-! ### Strings -/

def hexValue (b : UInt8) : Option Nat :=
  if isDigit b then some (b.toNat - 48)
  else if 97 ≤ b ∧ b ≤ 102 then some (b.toNat - 87)
  else if 65 ≤ b ∧ b ≤ 70 then some (b.toNat - 55)
  else none

/-- Four hexadecimal digits. -/
def hexEscape : Reader Nat := do
  match (← get).rest with
  | a :: b :: c :: d :: _ =>
    advance; advance; advance; advance
    match hexValue a, hexValue b, hexValue c, hexValue d with
    | some a, some b, some c, some d => pure (a * 4096 + b * 256 + c * 16 + d)
    | _, _, _, _ => failHere .badEscape
  | rest =>
    modify (passed rest.length)
    failHere .endInString

def isHighSurrogate (n : Nat) : Bool := 0xD800 ≤ n && n ≤ 0xDBFF

def isLowSurrogate (n : Nat) : Bool := 0xDC00 ≤ n && n ≤ 0xDFFF

/-- The second half of a pair must follow the first. -/
def expectByte (b : UInt8) : Reader Unit := do
  match ← take with
  | none => failHere .endInString
  | some c => if c = b then pure () else failHere .halfSurrogate

/-- The character of an escape whose `\u` is taken. -/
def unicodeEscape : Reader Char := do
  let n ← hexEscape
  if isLowSurrogate n then failHere .loneSurrogate
  else if isHighSurrogate n then
    expectByte 92
    expectByte 117
    let m ← hexEscape
    if isLowSurrogate m then
      pure (Char.ofNat ((n - 0xD800) * 0x400 + (m - 0xDC00) + 0x10000))
    else failHere .loneSurrogate
  else pure (Char.ofNat n)

/-- The octets that an escape stands for; the backslash is taken. -/
def escaped : Reader Bytes := do
  match ← take with
  | none => failHere .endInString
  | some b =>
    if b = 34 || b = 92 || b = 47 then pure [b]
    else if b = 98 then pure [8]
    else if b = 102 then pure [12]
    else if b = 110 then pure [10]
    else if b = 114 then pure [13]
    else if b = 116 then pure [9]
    else if b = 117 then return Utf8.encodeChar (← unicodeEscape)
    else failHere .badEscape

/-- The octets of a string up to its closing quote. -/
def stringBytes : Nat → Reader Bytes
  | 0 => failHere .endInString
  | fuel + 1 => do
    match ← peek with
    | none => failHere .endInString
    | some b =>
      advance
      if b = 34 then pure []
      else if b = 92 then
        let bytes ← escaped
        return bytes ++ (← stringBytes fuel)
      else if b < 32 then failHere .control
      else return b :: (← stringBytes fuel)

/-- A string; its opening quote is taken. -/
def string : Reader String := do
  let bytes ← stringBytes ((← get).rest.length + 1)
  match Utf8.decodeString? bytes with
  | some s => pure s
  | none => failHere .badUnicode

/-! ### Data that is passed over -/

def skipString : Nat → Reader Unit
  | 0 => failHere .endInString
  | fuel + 1 => do
    match ← peek with
    | none => failHere .endInString
    | some b =>
      if b = 34 then advance
      else if b = 92 then
        advance
        match ← take with
        | none => failHere .endInString
        | some b =>
          if b = 117 then let _ ← hexEscape; skipString fuel
          else if [34, 92, 47, 98, 102, 110, 114, 116].contains b then skipString fuel
          else failHere .badEscape
      else if b < 32 then failHere .control
      else
        advance
        skipString fuel

def skipExponent : Reader Unit := do
  advance
  let next ← peek
  if next = some 43 || next = some 45 then advance
  match ← take with
  | none => failHere .badNumber
  | some d => if isDigit d then let _ ← digits else failHere .badNumber

def skipNumber : Reader Unit := do
  match ← take with
  | none => failHere .badNumber
  | some d =>
    if !isDigit d then failHere .badNumber
    if d = 48 then
      match ← peek with
      | some b => if isDigit b then failNext .badNumber
      | none => pure ()
    else
      let _ ← digits
    match ← peek with
    | some 46 =>
      advance
      if (← digits).isEmpty then failNext .badNumber
      else if isExponentMark (← peek) then skipExponent
    | next => if isExponentMark next then skipExponent

mutual

def skipValue : Nat → Reader Unit
  | 0 => failNext .endInValue
  | fuel + 1 => do
    match ← peekToken with
    | none => failNext .endInValue
    | some b =>
      if b = 110 then advance; word (Utf8.encode "ull")
      else if b = 116 then advance; word (Utf8.encode "rue")
      else if b = 102 then advance; word (Utf8.encode "alse")
      else if b = 45 then advance; skipNumber
      else if isDigit b then skipNumber
      else if b = 34 then advance; skipString ((← get).rest.length + 1)
      else if b = 91 then advance; skipItems fuel false
      else if b = 123 then advance; skipMembers fuel false
      else failNext .noValue

/-- The items of an array and its end. `later` is set when an item has been passed. -/
def skipItems : Nat → Bool → Reader Unit
  | 0, _ => failNext .endInList
  | fuel + 1, later => do
    match ← peekToken with
    | none => failNext .endInList
    | some b =>
      if b = 93 then advance
      else
        if later then
          if b = 44 then advance else failNext .noListComma
        skipValue fuel
        skipItems fuel true

def skipMembers : Nat → Bool → Reader Unit
  | 0, _ => failNext .endInObject
  | fuel + 1, later => do
    match ← peekToken with
    | none => failNext .endInObject
    | some b =>
      if b = 125 then advance
      else
        if later then
          if b = 44 then advance else failNext .noObjectComma
        match ← peekToken with
        | none => failNext .endInObject
        | some q =>
          if q = 34 then
            advance
            skipString ((← get).rest.length + 1)
            match ← peekToken with
            | none => failNext .endInObject
            | some c =>
              if c = 58 then
                advance
                skipValue fuel
                skipMembers fuel true
              else failNext .noColon
          else failNext .keyNotString

end

/-! ### Shaped data -/

def endOfItems : Reader Unit := do
  match ← peekToken with
  | none => failNext .endInList
  | some b =>
    if b = 93 then advance
    else if b = 44 then
      advance
      if (← peekToken) = some 93 then failNext .trailingComma else failNext .trailingText
    else failNext .trailingText

def endOfMembers : Reader Unit := do
  match ← peekToken with
  | none => failNext .endInObject
  | some b =>
    if b = 125 then advance
    else if b = 44 then failNext .trailingComma
    else failNext .trailingText

/-- Whether another item follows; a comma in front of it is passed. -/
def anotherItem (later : Bool) : Reader Bool := do
  match ← peekToken with
  | none => failNext .endInList
  | some b =>
    if b = 93 then pure false
    else if !later then pure true
    else if b = 44 then
      advance
      match ← peekToken with
      | none => failNext .endInValue
      | some b => if b = 93 then failNext .trailingComma else pure true
    else failNext .noListComma

/-- Whether another member follows; a comma in front of it is passed. -/
def anotherMember (later : Bool) : Reader Bool := do
  match ← peekToken with
  | none => failNext .endInObject
  | some b =>
    if b = 125 then pure false
    else if !later then
      if b = 34 then pure true else failNext .keyNotString
    else if b = 44 then
      advance
      match ← peekToken with
      | none => failNext .endInValue
      | some b =>
        if b = 34 then pure true
        else if b = 125 then failNext .trailingComma
        else failNext .keyNotString
    else failNext .noObjectComma

def colon : Reader Unit := do
  match ← peekToken with
  | none => failNext .endInObject
  | some b => if b = 58 then advance else failNext .noColon

/-- A value that has the wrong form for its place. Scalars are read to name them. -/
def wrongForm {α : Type} (b : UInt8) (expected : String) : Reader α := do
  let wrong (value : Found) : Reader α := refuse (.wrongType value expected)
  if b = 110 then advance; word (Utf8.encode "ull"); wrong .null
  else if b = 116 then advance; word (Utf8.encode "rue"); wrong (.bool true)
  else if b = 102 then advance; word (Utf8.encode "alse"); wrong (.bool false)
  else if b = 45 then
    advance
    wrong (← number true).found
  else if isDigit b then wrong (← number false).found
  else if b = 34 then
    advance
    wrong (.string (← string))
  else if b = 91 then wrong .sequence
  else if b = 123 then wrong .map
  else failNext .noValue

/-- How the members of an object are treated by key. -/
inductive Member where
  | once (shape : Shape)
  | repeatable (shape : Shape)
  | ignored

def memberOf (shape : Shape) (key : String) : Member :=
  match shape with
  | .table item => .repeatable item
  | .record _ fields =>
    match Shape.fieldShape key fields with
    | some s => .once s
    | none => .ignored
  | .merged _ _ own =>
    match Shape.fieldShape key own with
    | some s => .once s
    | none => .repeatable .any
  | _ => .repeatable .any

def sorted (members : List (String × Json)) : List (String × Json) :=
  members.foldl (fun ms (k, v) => putEntry k v ms) []

/-- The members read for a shape, in its normal form. -/
def assemble (shape : Shape) (members : List (String × Json)) : Except Cause Json :=
  match shape with
  | .record _ fields => (Shape.arrange members fields).map .object
  | .merged _ inner own => do
    let ownFields ← Shape.arrange members own
    let inner := inner.filter fun f => (Shape.fieldShape f.1 own).isNone
    let found ← Shape.decodeMembers true inner [] members
    let fields ← Shape.arrange found inner
    pure (.object (fields ++ ownFields))
  | _ => .ok (.object (sorted members))

def label (labels : List String) : Reader Json := placed do
  match ← peekToken with
  | none => failNext .endInValue
  | some b =>
    if b = 34 then
      advance
      let s ← string
      if labels.contains s then pure (.string s) else refuse (.unknownLabel s labels)
    else wrongForm b "variant identifier"

/-- The value behind a label that carries nothing. -/
def nothing : Reader Unit := placed do
  match ← peekToken with
  | none => failNext .endInValue
  | some b => if b = 110 then advance; word (Utf8.encode "ull") else wrongForm b "unit"

def choice (depth : Nat) (labels : List String) : Reader Json := do
  match ← peekToken with
  | none => failNext .endInValue
  | some b =>
    if b = 34 then label labels
    else if b = 123 then
      if depth = 0 then failNext .tooDeep
      advance
      let chosen ← label labels
      colon
      nothing
      match ← peekToken with
      | none => failHere .endInObject
      | some b =>
        if b = 125 then advance; pure chosen
        else failHere .noValue
    else failNext .noValue

def takesItems : Shape → Bool
  | .any | .list _ | .record .. => true
  | _ => false

def takesMembers : Shape → Bool
  | .any | .table _ | .record .. | .merged .. => true
  | _ => false

def takesNumber : Shape → Bool
  | .any | .natural _ | .integer | .number => true
  | _ => false

def scalar (shape : Shape) (b : UInt8) : Reader Json := do
  if takesNumber shape && (b = 45 || isDigit b) then
    if b = 45 then advance
    of (Shape.ofNumber shape (← number (b = 45)))
  else match shape with
    | .any =>
      if b = 110 then advance; word (Utf8.encode "ull"); pure .null
      else if b = 116 then advance; word (Utf8.encode "rue"); pure (.bool true)
      else if b = 102 then advance; word (Utf8.encode "alse"); pure (.bool false)
      else if b = 34 then advance; return .string (← string)
      else failNext .noValue
    | .flag =>
      if b = 116 then advance; word (Utf8.encode "rue"); pure (.bool true)
      else if b = 102 then advance; word (Utf8.encode "alse"); pure (.bool false)
      else wrongForm b shape.expected
    | .text =>
      if b = 34 then advance; return .string (← string)
      else wrongForm b shape.expected
    | _ => wrongForm b shape.expected

mutual

/-- Data of a shape. The first argument bounds the work; twice the length of the input and some
more is enough. The second is how many containers may still be opened. -/
def value : Nat → Nat → Shape → Reader Json
  | 0, _, _ => failNext .endInValue
  | fuel + 1, depth, .optional item => do
    if (← peekToken) = some 110 then
      advance
      word (Utf8.encode "ull")
      pure .null
    else value fuel depth item
  | _ + 1, depth, .choice labels => choice depth labels
  | fuel + 1, depth, shape => placed do
    match ← peekToken with
    | none => failNext .endInValue
    | some b =>
      if b = 91 && takesItems shape then
        if depth = 0 then failNext .tooDeep
        advance
        match shape with
        | .record name fields =>
          let arity := Shape.arity name fields.length
          let members ← closedBy (fieldItems fuel (depth - 1) arity 0 fields) endOfItems
          pure (.object members)
        | .list item => return .array (← closedBy (items fuel (depth - 1) item false) endOfItems)
        | _ => return .array (← closedBy (items fuel (depth - 1) .any false) endOfItems)
      else if b = 123 && takesMembers shape then
        if depth = 0 then failNext .tooDeep
        advance
        closedBy (do of (assemble shape (← members fuel (depth - 1) shape []))) endOfMembers
      else scalar shape b

def items : Nat → Nat → Shape → Bool → Reader (List Json)
  | 0, _, _, _ => failNext .endInList
  | fuel + 1, depth, item, later => do
    if ← anotherItem later then
      let v ← value fuel depth item
      return v :: (← items fuel depth item true)
    else pure []

/-- The fields of a record that is written as an array. -/
def fieldItems : Nat → Nat → String → Nat → List (String × Shape) → Reader (List (String × Json))
  | 0, _, _, _, _ => failNext .endInList
  | _ + 1, _, _, _, [] => pure []
  | fuel + 1, depth, arity, index, (name, shape) :: fields => do
    if ← anotherItem (index ≠ 0) then
      let v ← value fuel depth shape
      return (name, v) :: (← fieldItems fuel depth arity (index + 1) fields)
    else refuse (.wrongLength index arity)

/-- The members of an object in the order they are written. -/
def members : Nat → Nat → Shape → List String → Reader (List (String × Json))
  | 0, _, _, _ => failNext .endInObject
  | fuel + 1, depth, shape, seen => do
    if ← anotherMember !seen.isEmpty then
      advance
      let key ← string
      match memberOf shape key with
      | .once s =>
        if seen.contains key then refuse (.repeated key)
        colon
        let v ← value fuel depth s
        return (key, v) :: (← members fuel depth shape (key :: seen))
      | .repeatable s =>
        colon
        let v ← value fuel depth s
        return (key, v) :: (← members fuel depth shape (key :: seen))
      | .ignored =>
        colon
        skipValue (2 * (← get).rest.length + 2)
        members fuel depth shape (key :: seen)
    else pure []

end

/-- A whole text: data and nothing but blanks behind it. -/
def whole (shape : Shape) (limit : Nat) : Reader Json := do
  let v ← value (2 * (← get).rest.length + 2) limit shape
  match ← peekToken with
  | none => pure v
  | some _ => failNext .trailingText

end Reader

/-- How deep containers may nest. -/
def depthLimit : Nat := 127

def readWithin (limit : Nat) (shape : Shape) (input : Bytes) : Except Failure Json :=
  match Reader.whole shape limit (Cursor.start input) with
  | .ok v _ => .ok v
  | .error e _ => .error e

/-- Read a whole text as data of a shape. -/
def read (shape : Shape) (input : Bytes) : Except Failure Json := readWithin depthLimit shape input

/-- The value of a text, if it is one. -/
def ofBytes? (input : Bytes) : Option Json := (read .any input).toOption

end LookupBench.Json
