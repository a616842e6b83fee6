import LookupBench.Random.ChaCha

/-!
# Random choices

A generator is a key and the number of words drawn so far, so what it gives next depends on nothing
else. A choice among `n` draws words until one falls into the part of their range that `n` divides
evenly; a choice among none draws nothing.
-/

namespace LookupBench.Random

open scoped Power

structure Generator where
  key : Key
  drawn : Nat
  deriving DecidableEq

/-- A step of the congruential sequence that spreads a seed over a key. -/
def spread (s : UInt64) : UInt64 := s * 6364136223846793005 + 11634580027462260723

/-- The word of a key that belongs to a step: its high bits folded and turned. -/
def fold (s : UInt64) : UInt32 :=
  let x := (((s >>> 18) ^^^ s) >>> 27).toUInt32
  let n := (s >>> 59).toUInt32
  (x >>> n) ||| (x <<< ((32 - n) % 32))

/-- So many words of a key. -/
def keyWords : Nat → UInt64 → List UInt32
  | 0, _ => []
  | n + 1, s => fold (spread s) :: keyWords n (spread s)

theorem length_keyWords (n : Nat) (s : UInt64) : (keyWords n s).length = n := by
  induction n generalizing s with
  | zero => rfl
  | succ n ih => simp [keyWords, ih]

namespace Generator

def ofSeed (seed : UInt64) : Generator where
  key := ⟨(keyWords 8 seed).toArray, by simp [length_keyWords]⟩
  drawn := 0

def next (g : Generator) : UInt32 × Generator :=
  (word g.key g.drawn, { g with drawn := g.drawn + 1 })

/-- The last word, in its low half, that a choice among `n` accepts: `n` is shifted as far as it
goes, so that what lies below is a multiple of it. -/
def zone (n : Nat) : Nat := n * 2 ^ (31 - n.log2) - 1

/-- Draw until a word is accepted, at most so many times; a word is refused less than half the
time. -/
def indexWithin (n : Nat) : Nat → Generator → Nat × Generator
  | 0, g => (0, g)
  | tries + 1, g =>
    let (v, g) := g.next
    let m := v.toNat * n
    if m % 2 ^ (32 : Nat) ≤ zone n then (m / 2 ^ (32 : Nat), g) else indexWithin n tries g

def tries : Nat := 4096

/-- An index below `n`, which must be positive. -/
def index (n : Nat) (g : Generator) : Nat × Generator := indexWithin n tries g

/-- An item of a list; none of an empty one. -/
def choose {α : Type} (items : List α) (g : Generator) : Option α × Generator :=
  match items with
  | [] => (none, g)
  | _ :: _ =>
    let (i, g) := g.index items.length
    (items[i]?, g)

end Generator

end LookupBench.Random
