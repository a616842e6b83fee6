/-!
# Powers

The powers of natural numbers and integers, written with `^`. Another library may bring instances of
its own for them; where this scope is open, the ones of the core library are meant.
-/

namespace LookupBench.Power

scoped instance (priority := high) natPower : Pow Nat Nat := instPowNat

scoped instance (priority := high) intPower : Pow Int Nat := instPowNat

end LookupBench.Power
