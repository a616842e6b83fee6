import LookupBench.Number.Shortest
import LookupBench.Text.WordChar

/-!
# Numbers in command lines and headers

Words and numbers as people type them: an optional sign, ASCII digits and nothing else; for
fractions also a point, an exponent, and names for the values that are not finite.
-/

namespace LookupBench

open scoped Power

def digitValue (c : Char) : Nat := c.toNat - 48

def decimalValue (cs : List Char) : Nat := cs.foldl (fun n c => 10 * n + digitValue c) 0

/-- An unsigned word of 64 bits. A plus sign may lead. -/
def parseNat64? (cs : List Char) : Option Nat :=
  let ds := match cs with
    | '+' :: rest => rest
    | _ => cs
  if ds.isEmpty || !ds.all isAsciiDigit then none
  else
    let n := decimalValue ds
    if n < 2 ^ (64 : Nat) then some n else none

/-- A signed word of 64 bits. -/
def parseInt64? (cs : List Char) : Option Int :=
  let (negative, ds) := match cs with
    | '+' :: rest => (false, rest)
    | '-' :: rest => (true, rest)
    | _ => (false, cs)
  if ds.isEmpty || !ds.all isAsciiDigit then none
  else
    let n : Int := decimalValue ds
    let i := if negative then -n else n
    if -(2 ^ (63 : Nat)) ≤ i ∧ i < 2 ^ (63 : Nat) then some i else none

def lowerAscii (c : Char) : Char := if 'A' ≤ c ∧ c ≤ 'Z' then Char.ofNat (c.toNat + 32) else c

/-- Digits with at most one point among them: their value and how many stand behind the point. -/
def parseMantissa? (cs : List Char) : Option (Nat × Nat) :=
  let whole := cs.takeWhile isAsciiDigit
  match cs.dropWhile isAsciiDigit with
  | [] => if whole.isEmpty then none else some (decimalValue whole, 0)
  | '.' :: places =>
    if places.all isAsciiDigit && !(whole.isEmpty && places.isEmpty) then
      some (decimalValue (whole ++ places), places.length)
    else none
  | _ => none

def splitExponent : List Char → List Char × Option (List Char)
  | [] => ([], none)
  | c :: rest =>
    if c = 'e' ∨ c = 'E' then ([], some rest)
    else
      let (before, after) := splitExponent rest
      (c :: before, after)

def parseExponent? (cs : List Char) : Option Int :=
  let (negative, ds) := match cs with
    | '+' :: rest => (false, rest)
    | '-' :: rest => (true, rest)
    | _ => (false, cs)
  if ds.isEmpty || !ds.all isAsciiDigit then none
  else some (if negative then -(decimalValue ds : Int) else decimalValue ds)

/-- A binary64 number, rounded to the nearest; the names of infinities and NaN are read in either
case. -/
def parseBinary64? (cs : List Char) : Option Binary64 :=
  let (negative, body) := match cs with
    | '+' :: rest => (false, rest)
    | '-' :: rest => (true, rest)
    | _ => (false, cs)
  let name := String.ofList (body.map lowerAscii)
  if name = "inf" ∨ name = "infinity" then some (.infinity negative)
  else if name = "nan" then
    some (if negative then ⟨Binary64.nan.bits + 0x8000000000000000⟩ else Binary64.nan)
  else
    let (mantissa, exponent) := splitExponent body
    match parseMantissa? mantissa, exponent with
    | some (digits, places), none => some (Binary64.ofDecimal negative digits (-places))
    | some (digits, places), some e =>
      (parseExponent? e).map fun e => Binary64.ofDecimal negative digits (e - places)
    | none, _ => none

end LookupBench
