import LookupBench.Number.Power

/-!
# Binary64 numbers

A double-precision number is kept as its 64 bits, so that the two zeros and the NaNs stay apart.
All arithmetic goes through exact quotients of natural numbers and one rounding, to the nearest
representable number with ties to the even significand.
-/

namespace LookupBench

open scoped Power

structure Binary64 where
  bits : UInt64
  deriving DecidableEq, Repr, Hashable

namespace Binary64

instance : Inhabited Binary64 := ⟨⟨0⟩⟩

/-- The parts of a number: a NaN, an infinity, or `±significand * 2 ^ exponent`. -/
inductive Parts where
  | nan
  | infinite (negative : Bool)
  | finite (negative : Bool) (significand : Nat) (exponent : Int)
  deriving DecidableEq, Repr

def exponentField (x : Binary64) : Nat := x.bits.toNat / 2 ^ (52 : Nat) % 2 ^ (11 : Nat)

def fraction (x : Binary64) : Nat := x.bits.toNat % 2 ^ (52 : Nat)

def isNegative (x : Binary64) : Bool := 2 ^ (63 : Nat) ≤ x.bits.toNat

def parts (x : Binary64) : Parts :=
  let e := x.exponentField
  let f := x.fraction
  if e = 2047 then if f = 0 then .infinite x.isNegative else .nan
  else if e = 0 then .finite x.isNegative f (-1074)
  else .finite x.isNegative (2 ^ (52 : Nat) + f) ((e : Int) - 1075)

def pack (negative : Bool) (rest : Nat) : Binary64 :=
  ⟨UInt64.ofNat ((if negative then 2 ^ (63 : Nat) else 0) + rest)⟩

def infinity (negative : Bool) : Binary64 := pack negative (2047 * 2 ^ (52 : Nat))

def nan : Binary64 := ⟨0x7ff8000000000000⟩

def zero (negative : Bool) : Binary64 := pack negative 0

def isNaN (x : Binary64) : Bool := x.exponentField = 2047 && x.fraction ≠ 0

def isFinite (x : Binary64) : Bool := x.exponentField ≠ 2047

/-- `num / den` to the nearest natural number, ties to even. -/
def roundDiv (num den : Nat) : Nat :=
  let q := num / den
  let r := num % den
  if 2 * r < den then q else if den < 2 * r then q + 1 else q + q % 2

/-- `num * 2 ^ shift / den` to the nearest natural number, ties to even. -/
def roundScaled (num den : Nat) (shift : Int) : Nat :=
  match shift with
  | .ofNat k => roundDiv (num * 2 ^ k) den
  | .negSucc k => roundDiv num (den * 2 ^ (k + 1))

/-- The magnitude bits of the number nearest to `num / den`. The exponent of the last place is the
least `q ≥ -1074` for which the quotient has at most 53 binary digits; rounding up to the next
power of two carries into the exponent field by itself. -/
def magnitudeOfRatio (num den : Nat) : Nat :=
  if num = 0 ∨ den = 0 then 0
  else
    let estimate : Int := (num.log2 : Int) - den.log2 - 52
    let fits (q : Int) : Bool :=
      match q with
      | .ofNat k => num / (den * 2 ^ k) < 2 ^ (53 : Nat)
      | .negSucc k => num * 2 ^ (k + 1) / den < 2 ^ (53 : Nat)
    let q₀ := if fits (estimate - 1) then estimate - 1 else if fits estimate then estimate
      else estimate + 1
    let q := max q₀ (-1074)
    let significand := roundScaled num den (-q)
    let field := (q + 1074).toNat
    let bits := field * 2 ^ (52 : Nat) + significand
    min bits (2047 * 2 ^ (52 : Nat))

/-- The number nearest to `±num / den`. -/
def ofRatio (negative : Bool) (num den : Nat) : Binary64 :=
  pack negative (magnitudeOfRatio num den)

def ofNat (n : Nat) : Binary64 := ofRatio false n 1

def ofInt (i : Int) : Binary64 := ofRatio (i < 0) i.natAbs 1

/-- A finite magnitude as a quotient. -/
def ratio (significand : Nat) (exponent : Int) : Nat × Nat :=
  match exponent with
  | .ofNat k => (significand * 2 ^ k, 1)
  | .negSucc k => (significand, 2 ^ (k + 1))

def mul (x y : Binary64) : Binary64 :=
  match x.parts, y.parts with
  | .nan, _ | _, .nan => nan
  | .infinite s, .infinite t => infinity (s != t)
  | .infinite s, .finite t m _ => if m = 0 then nan else infinity (s != t)
  | .finite s m _, .infinite t => if m = 0 then nan else infinity (s != t)
  | .finite s m e, .finite t n f =>
    let (num, den) := ratio (m * n) (e + f)
    ofRatio (s != t) num den

def div (x y : Binary64) : Binary64 :=
  match x.parts, y.parts with
  | .nan, _ | _, .nan => nan
  | .infinite _, .infinite _ => nan
  | .infinite s, .finite t _ _ => infinity (s != t)
  | .finite s _ _, .infinite t => zero (s != t)
  | .finite s m e, .finite t n f =>
    if n = 0 then if m = 0 then nan else infinity (s != t)
    else
      let (num, den) := ratio m (e - f)
      ofRatio (s != t) num (den * n)

/-- A finite number as a signed multiple of `2 ^ -1074`. -/
def units (negative : Bool) (significand : Nat) (exponent : Int) : Int :=
  let n := significand * 2 ^ (exponent + 1074).toNat
  if negative then -(n : Int) else n

/-- A sum of zeros is negative only when both are. -/
def add (x y : Binary64) : Binary64 :=
  match x.parts, y.parts with
  | .nan, _ | _, .nan => nan
  | .infinite s, .infinite t => if s = t then infinity s else nan
  | .infinite s, .finite .. => infinity s
  | .finite .., .infinite t => infinity t
  | .finite s m e, .finite t n f =>
    let sum := units s m e + units t n f
    if sum = 0 then zero (s && t) else ofRatio (sum < 0) sum.natAbs (2 ^ (1074 : Nat))

/-- The place of a number in the total order of bit patterns: negative NaNs first, then by value
with the negative zero before the positive, then positive NaNs. -/
def orderKey (x : Binary64) : Int :=
  let n := x.bits.toNat
  if 2 ^ (63 : Nat) ≤ n then (2 ^ (63 : Nat) : Int) - n - 1 else n

def totalLe (x y : Binary64) : Bool := x.orderKey ≤ y.orderKey

/-- The usual comparison, false as soon as a NaN takes part. -/
def lt (x y : Binary64) : Bool :=
  match x.parts, y.parts with
  | .nan, _ | _, .nan => false
  | .infinite s, .infinite t => s && !t
  | .infinite s, .finite .. => s
  | .finite .., .infinite t => !t
  | .finite s m e, .finite t n f => units s m e < units t n f

/-- The integer a number is equal to, if there is one. -/
def toInt? (x : Binary64) : Option Int :=
  match x.parts with
  | .finite s m e =>
    let (num, den) := ratio m e
    if num % den = 0 then
      let n := num / den
      some (if s then -(n : Int) else n)
    else none
  | _ => none

/-- The integer part, toward zero, held within `low` and `high`; a NaN counts as zero. -/
def truncateWithin (x : Binary64) (low high : Int) : Int :=
  match x.parts with
  | .nan => max low (min 0 high)
  | .infinite s => if s then low else high
  | .finite s m e =>
    let (num, den) := ratio m e
    let n : Int := if s then -((num / den : Nat) : Int) else (num / den : Nat)
    max low (min n high)

end Binary64

end LookupBench
