import LookupBench.Number.Binary64

/-!
# Durations

A span of time in whole nanoseconds, less than `2 ^ 64` seconds. Seconds given as a binary64
number are rounded to the nearest nanosecond, ties to even.
-/

namespace LookupBench

open scoped Power

structure Duration where
  nanoseconds : Nat
  deriving DecidableEq, Repr

/-- Why a number of seconds is no duration. -/
inductive DurationFault where
  | negative
  | tooBig
  deriving DecidableEq, Repr

def DurationFault.message : DurationFault → String
  | .negative => "cannot convert float seconds to Duration: value is negative"
  | .tooBig => "cannot convert float seconds to Duration: value is either too big or NaN"

namespace Duration

def perSecond : Nat := 1000000000

def ofMilliseconds (n : Nat) : Duration := ⟨n * 1000000⟩

/-- The duration nearest to a number of seconds. -/
def ofSeconds (x : Binary64) : Except DurationFault Duration :=
  match x.parts with
  | .nan => .error .tooBig
  | .infinite negative => .error (if negative then .negative else .tooBig)
  | .finite negative m e =>
    if negative && m ≠ 0 then .error .negative
    else
      let (num, den) := Binary64.ratio m e
      if 2 ^ (64 : Nat) * den ≤ num then .error .tooBig
      else .ok ⟨Binary64.roundDiv (num * perSecond) den⟩

/-- The whole seconds and the rest of a second, each as a binary64 number, added. -/
def toSeconds (d : Duration) : Binary64 :=
  (Binary64.ofNat (d.nanoseconds / perSecond)).add
    ((Binary64.ofNat (d.nanoseconds % perSecond)).div (Binary64.ofNat perSecond))

end Duration

end LookupBench
