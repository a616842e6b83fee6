import LookupBench.Number.Binary64

/-!
# Decimal text of binary64 numbers

`shortest` finds the fewest decimal digits that read back as the same number, and of those the
nearest. Three spellings are built on it or on exact division: positional, the spelling of JSON
texts (positional up to sixteen places, otherwise with a signed exponent), and a fixed number of
places with half going to the even neighbour.
-/

namespace LookupBench

open scoped Power

/-- `digits * 10 ^ exponent`. -/
structure Decimal where
  digits : Nat
  exponent : Int
  deriving DecidableEq, Repr

namespace Decimal

def digitChar (d : Nat) : Char := Char.ofNat ('0'.toNat + d)

/-- The decimal digits of a number that is not zero, in front of `tail`. -/
def positiveDigits : Nat → Nat → List Char → List Char
  | 0, _, tail => tail
  | fuel + 1, n, tail =>
    if n = 0 then tail else positiveDigits fuel (n / 10) (digitChar (n % 10) :: tail)

def natDigits (n : Nat) : List Char :=
  if n = 0 then ['0'] else positiveDigits (n.log2 + 1) n []

def intDigits (i : Int) : List Char :=
  if i < 0 then '-' :: natDigits i.natAbs else natDigits i.natAbs

def natText (n : Nat) : String := String.ofList (natDigits n)

def intText (i : Int) : String := String.ofList (intDigits i)

/-- Whether `10 ^ p ≤ num / den`. -/
def reaches (num den : Nat) (p : Int) : Bool :=
  match p with
  | .ofNat k => den * 10 ^ k ≤ num
  | .negSucc k => den ≤ num * 10 ^ (k + 1)

/-- The place of the leading digit of a positive quotient, from an estimate that is at most two
places off. -/
def leadingPlace (num den : Nat) : Int :=
  let estimate : Int := (((num.log2 : Int) - den.log2) * 30103).fdiv 100000
  if reaches num den (estimate + 2) then estimate + 2
  else if reaches num den (estimate + 1) then estimate + 1
  else if reaches num den estimate then estimate
  else if reaches num den (estimate - 1) then estimate - 1
  else estimate - 2

/-- A quotient on the grid of `10 ^ k`: its integer part and the rest. -/
def onGrid (num den : Nat) (k : Int) : Nat × Nat :=
  match k with
  | .ofNat j => (num, den * 10 ^ j)
  | .negSucc j => (num * 10 ^ (j + 1), den)

/-- Drop zeros at the end. -/
def trim : Nat → Decimal → Decimal
  | 0, d => d
  | fuel + 1, d =>
    if d.digits ≠ 0 ∧ d.digits % 10 = 0 then trim fuel ⟨d.digits / 10, d.exponent + 1⟩ else d

/-- The candidates with `count` digits, searched from few digits to many. `low`, `value` and `high`
share the denominator `den`; `closed` tells whether the ends of the interval read back as well. -/
def search (low value high den : Nat) (closed : Bool) (place : Int) : Nat → Nat → Decimal
  | _, 0 => ⟨value, 0⟩
  | count, fuel + 1 =>
    let k := place - count + 1
    let (num, unit) := onGrid value den k
    let (lowNum, _) := onGrid low den k
    let (highNum, _) := onGrid high den k
    let q := num / unit
    let inside (n : Nat) : Bool :=
      if closed then lowNum ≤ n * unit && n * unit ≤ highNum
      else lowNum < n * unit && n * unit < highNum
    let below := inside q
    let above := inside (q + 1)
    let r := num % unit
    if below && (!above || 2 * r < unit || (2 * r = unit && q % 2 = 0)) then ⟨q, k⟩
    else if above then ⟨q + 1, k⟩
    else search low value high den closed place (count + 1) fuel

/-- The shortest decimal that reads back as `significand * 2 ^ exponent`, for a positive
significand. The interval below a power of two is half as wide as the one above it. -/
def shortest (significand : Nat) (exponent : Int) : Decimal :=
  let narrow := significand = 2 ^ (52 : Nat) && -1074 < exponent
  let (num, den) := Binary64.ratio significand exponent
  let value := 4 * num
  -- the interval ends, as multiples of a quarter of the last place
  let (unit, _) := Binary64.ratio 1 exponent
  let low := value - (if narrow then unit else 2 * unit)
  let high := value + 2 * unit
  let place := leadingPlace num den
  trim 20 (search low value high (4 * den) (significand % 2 = 0) place 1 17)

end Decimal

namespace Binary64

def sign (negative : Bool) : List Char := if negative then ['-'] else []

def zeros (n : Nat) : List Char := List.replicate n '0'

/-- Digits with the point after the first `point` of them; zeros fill both sides. -/
def positional (ds : List Char) (point : Int) : List Char :=
  if point ≤ 0 then ['0', '.'] ++ zeros (-point).toNat ++ ds
  else
    let n := point.toNat
    if ds.length ≤ n then ds ++ zeros (n - ds.length) ++ ['.', '0']
    else ds.take n ++ '.' :: ds.drop n

/-- One digit before the point, and an exponent with its sign. -/
def scientific (ds : List Char) (point : Int) : List Char :=
  let mantissa := match ds with
    | [] => []
    | [d] => [d]
    | d :: rest => d :: '.' :: rest
  let e := point - 1
  mantissa ++ (if e < 0 then ['e', '-'] else ['e', '+']) ++ Decimal.natDigits e.natAbs

/-- The spelling in JSON texts: positional while the point lies within sixteen places and at most
four zeros follow it. A number that is not finite has none. -/
def jsonText (x : Binary64) : List Char :=
  match x.parts with
  | .nan | .infinite _ => "null".toList
  | .finite s m e =>
    if m = 0 then sign s ++ ['0', '.', '0']
    else
      let d := Decimal.shortest m e
      let ds := Decimal.natDigits d.digits
      let point := (ds.length : Int) + d.exponent
      if -5 < point ∧ point ≤ 16 then sign s ++ positional ds point
      else sign s ++ scientific ds point

/-- All digits written out, however many. -/
def plainText (x : Binary64) : List Char :=
  match x.parts with
  | .nan => "NaN".toList
  | .infinite s => sign s ++ "inf".toList
  | .finite s m e =>
    if m = 0 then sign s ++ ['0', '.', '0']
    else
      let d := Decimal.shortest m e
      let ds := Decimal.natDigits d.digits
      sign s ++ positional ds ((ds.length : Int) + d.exponent)

/-- One place after the point; an exact half goes to the even neighbour. -/
def tenthsText (x : Binary64) : List Char :=
  match x.parts with
  | .nan => "NaN".toList
  | .infinite s => sign s ++ "inf".toList
  | .finite s m e =>
    let (num, den) := ratio m e
    let n := roundDiv (num * 10) den
    sign s ++ Decimal.natDigits (n / 10) ++ ['.', Decimal.digitChar (n % 10)]

/-- The number nearest to `±digits * 10 ^ exponent`. Exponents far outside the range of the format
are settled without writing them out. -/
def ofDecimal (negative : Bool) (digits : Nat) (exponent : Int) : Binary64 :=
  if digits = 0 then zero negative
  else
    let place := (digits.log2 : Int) * 30103 / 100000 + exponent
    if 320 < place then infinity negative
    else if place < -400 then zero negative
    else match exponent with
      | .ofNat k => ofRatio negative (digits * 10 ^ k) 1
      | .negSucc k => ofRatio negative digits (10 ^ (k + 1))

end Binary64

end LookupBench
