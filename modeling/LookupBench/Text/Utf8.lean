/-!
# UTF-8

Characters to octets and back. `decode?` accepts exactly the shortest encodings of Unicode scalar
values; `decodeLossy` never refuses, and puts one replacement character for each longest piece
that starts a character and cannot finish it. The two agree on well-formed input.
-/

namespace LookupBench

/-- Octets, as they come from files and pipes. -/
abbrev Bytes := List UInt8

namespace Utf8

/-- The octets of one character. -/
def encodeChar (c : Char) : Bytes :=
  let n := c.toNat
  if n < 0x80 then [n.toUInt8]
  else if n < 0x800 then [(0xC0 + n / 0x40).toUInt8, (0x80 + n % 0x40).toUInt8]
  else if n < 0x10000 then
    [(0xE0 + n / 0x1000).toUInt8, (0x80 + n / 0x40 % 0x40).toUInt8, (0x80 + n % 0x40).toUInt8]
  else
    [(0xF0 + n / 0x40000).toUInt8, (0x80 + n / 0x1000 % 0x40).toUInt8,
      (0x80 + n / 0x40 % 0x40).toUInt8, (0x80 + n % 0x40).toUInt8]

def encodeChars : List Char → Bytes
  | [] => []
  | c :: rest => encodeChar c ++ encodeChars rest

def encode (s : String) : Bytes := encodeChars s.toList

/-- The range of the octet that may follow a first octet, and how many octets the whole character
has. Overlong forms, surrogates and values past the last plane are ruled out by the range. -/
def lead? (b : UInt8) : Option (Nat × UInt8 × UInt8) :=
  if 0xC2 ≤ b ∧ b ≤ 0xDF then some (2, 0x80, 0xBF)
  else if b = 0xE0 then some (3, 0xA0, 0xBF)
  else if b = 0xED then some (3, 0x80, 0x9F)
  else if 0xE1 ≤ b ∧ b ≤ 0xEF then some (3, 0x80, 0xBF)
  else if b = 0xF0 then some (4, 0x90, 0xBF)
  else if 0xF1 ≤ b ∧ b ≤ 0xF3 then some (4, 0x80, 0xBF)
  else if b = 0xF4 then some (4, 0x80, 0x8F)
  else none

def isTail (b : UInt8) : Bool := 0x80 ≤ b && b ≤ 0xBF

/-- The first piece of a non-empty input: a character, or the length of a piece that is none. -/
inductive Piece where
  | char (c : Char) (size : Nat)
  | broken (size : Nat)
  deriving Repr, DecidableEq

def low (b : UInt8) : Nat := b.toNat % 0x40

def piece (b : UInt8) (rest : Bytes) : Piece :=
  if b < 0x80 then .char (Char.ofNat b.toNat) 1
  else match lead? b with
    | none => .broken 1
    | some (size, lowest, highest) =>
      match rest with
      | [] => .broken 1
      | b₂ :: rest₂ =>
        if b₂ < lowest ∨ highest < b₂ then .broken 1
        else if size = 2 then .char (Char.ofNat (b.toNat % 0x20 * 0x40 + low b₂)) 2
        else match rest₂ with
          | [] => .broken 2
          | b₃ :: rest₃ =>
            if !isTail b₃ then .broken 2
            else if size = 3 then
              .char (Char.ofNat (b.toNat % 0x10 * 0x1000 + low b₂ * 0x40 + low b₃)) 3
            else match rest₃ with
              | [] => .broken 3
              | b₄ :: _ =>
                if !isTail b₄ then .broken 3
                else .char (Char.ofNat
                  (b.toNat % 8 * 0x40000 + low b₂ * 0x1000 + low b₃ * 0x40 + low b₄)) 4

/-- The pieces of an input in order. `skip` octets of the current piece are still to be passed. -/
def pieces : Nat → Bytes → List Piece
  | _, [] => []
  | skip + 1, _ :: rest => pieces skip rest
  | 0, b :: rest =>
    match piece b rest with
    | .char c size => .char c size :: pieces (size - 1) rest
    | .broken size => .broken size :: pieces (size - 1) rest

def Piece.char? : Piece → Option Char
  | .char c _ => some c
  | .broken _ => none

/-- The replacement character stands for a piece that is no character. -/
def Piece.shown : Piece → Char
  | .char c _ => c
  | .broken _ => '\uFFFD'

def decode? (bytes : Bytes) : Option (List Char) := (pieces 0 bytes).mapM Piece.char?

def decodeLossy (bytes : Bytes) : List Char := (pieces 0 bytes).map Piece.shown

def decodeString? (bytes : Bytes) : Option String := (decode? bytes).map String.ofList

def decodeStringLossy (bytes : Bytes) : String := String.ofList (decodeLossy bytes)

end Utf8

end LookupBench
