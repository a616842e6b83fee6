import LookupBench.Json.Value
import LookupBench.Number.Shortest

/-!
# JSON text

Two layouts of a value: compact, without any blank, and indented by two blanks a level. Characters
outside ASCII are written as they are; of the ASCII ones only quotes, backslashes and controls are
escaped.
-/

namespace LookupBench.Json

def hexDigit (n : Nat) : Char :=
  if n < 10 then Char.ofNat ('0'.toNat + n) else Char.ofNat ('a'.toNat + (n - 10))

/-- How a character is written inside a string. -/
def escape (c : Char) : List Char :=
  if c = '"' then ['\\', '"']
  else if c = '\\' then ['\\', '\\']
  else if c = '\n' then ['\\', 'n']
  else if c = '\r' then ['\\', 'r']
  else if c = '\t' then ['\\', 't']
  else if c.toNat = 8 then ['\\', 'b']
  else if c.toNat = 12 then ['\\', 'f']
  else if c.toNat < 0x20 then
    ['\\', 'u', '0', '0', hexDigit (c.toNat / 16), hexDigit (c.toNat % 16)]
  else [c]

def quote (s : String) : List Char := '"' :: s.toList.flatMap escape ++ ['"']

mutual

/-- A value without any blank. -/
def compact : Json → List Char
  | .null => "null".toList
  | .bool true => "true".toList
  | .bool false => "false".toList
  | .int i => Decimal.intDigits i
  | .float x => x.jsonText
  | .string s => quote s
  | .array items => '[' :: compactItems items ++ [']']
  | .object members => '{' :: compactMembers members ++ ['}']

def compactItems : List Json → List Char
  | [] => []
  | [x] => compact x
  | x :: rest => compact x ++ ',' :: compactItems rest

def compactMembers : List (String × Json) → List Char
  | [] => []
  | [(k, x)] => quote k ++ ':' :: compact x
  | (k, x) :: rest => quote k ++ ':' :: compact x ++ ',' :: compactMembers rest

end

def newline (level : Nat) : List Char := '\n' :: List.replicate (2 * level) ' '

mutual

/-- A value over several lines; an empty array or object stays on its line. -/
def indented (level : Nat) : Json → List Char
  | .array [] => ['[', ']']
  | .array (x :: rest) =>
    '[' :: newline (level + 1) ++ indented (level + 1) x ++ indentedItems (level + 1) rest
      ++ newline level ++ [']']
  | .object [] => ['{', '}']
  | .object ((k, x) :: rest) =>
    '{' :: newline (level + 1) ++ quote k ++ ':' :: ' ' :: indented (level + 1) x
      ++ indentedMembers (level + 1) rest ++ newline level ++ ['}']
  | .null => "null".toList
  | .bool true => "true".toList
  | .bool false => "false".toList
  | .int i => Decimal.intDigits i
  | .float x => x.jsonText
  | .string s => quote s

def indentedItems (level : Nat) : List Json → List Char
  | [] => []
  | x :: rest => ',' :: newline level ++ indented level x ++ indentedItems level rest

def indentedMembers (level : Nat) : List (String × Json) → List Char
  | [] => []
  | (k, x) :: rest =>
    ',' :: newline level ++ quote k ++ ':' :: ' ' :: indented level x
      ++ indentedMembers level rest

end

def compactText (v : Json) : String := String.ofList (compact v)

def indentedText (v : Json) : String := String.ofList (indented 0 v)

end LookupBench.Json
