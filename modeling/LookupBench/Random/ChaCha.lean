import LookupBench.Number.Power

/-!
# The ChaCha keystream

Sixteen words, mixed by quarter rounds along the columns and the diagonals of a square and added to
what they were. With twelve rounds, a counter of 64 bits and no nonce, the words of the blocks in
order are the stream that random choices are drawn from.
-/

namespace LookupBench.Random

open scoped Power

abbrev Block := Vector UInt32 16

def rotateLeft (x : UInt32) (n : UInt32) : UInt32 := (x <<< n) ||| (x >>> (32 - n))

/-- One mixing step: add to `a`, and turn `d` with it. -/
def mix (s : Block) (a b d : Fin 16) (n : UInt32) : Block :=
  let x := s[a] + s[b]
  (s.set a x).set d (rotateLeft (s[d] ^^^ x) n)

def quarterRound (s : Block) (a b c d : Fin 16) : Block :=
  mix (mix (mix (mix s a b d 16) c d b 12) a b d 8) c d b 7

/-- A round on the columns and one on the diagonals. -/
def doubleRound (s : Block) : Block :=
  let s := quarterRound s 0 4 8 12
  let s := quarterRound s 1 5 9 13
  let s := quarterRound s 2 6 10 14
  let s := quarterRound s 3 7 11 15
  let s := quarterRound s 0 5 10 15
  let s := quarterRound s 1 6 11 12
  let s := quarterRound s 2 7 8 13
  quarterRound s 3 4 9 14

abbrev Key := Vector UInt32 8

/-- Four words of constants, the key, the counter and a zero nonce. -/
def start (key : Key) (counter : Nat) : Block :=
  #v[0x61707865, 0x3320646e, 0x79622d32, 0x6b206574,
    key[0], key[1], key[2], key[3], key[4], key[5], key[6], key[7],
    counter.toUInt32, (counter / 2 ^ (32 : Nat)).toUInt32, 0, 0]

def doubleRounds : Nat := 6

def block (key : Key) (counter : Nat) : Block :=
  let s := start key counter
  s.zipWith (· + ·) (doubleRounds.repeat doubleRound s)

/-- The word at a place in the stream. -/
def word (key : Key) (place : Nat) : UInt32 :=
  (block key (place / 16))[place % 16]

end LookupBench.Random
