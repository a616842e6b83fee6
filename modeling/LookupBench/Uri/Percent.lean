import LookupBench.Text.Utf8

/-!
# Percent escapes

An octet may be written as a percent sign and two hexadecimal digits. Decoding takes every such
escape back and leaves a percent sign alone that starts none.
-/

namespace LookupBench.Uri

def percent : UInt8 := 37

def hexOctet (n : Nat) : UInt8 := if n < 10 then (48 + n).toUInt8 else (55 + n).toUInt8

def hexOctetValue (b : UInt8) : Option Nat :=
  let n := b.toNat
  if 48 ≤ n ∧ n ≤ 57 then some (n - 48)
  else if 65 ≤ n ∧ n ≤ 70 then some (n - 55)
  else if 97 ≤ n ∧ n ≤ 102 then some (n - 87)
  else none

/-- The octet that two digits write. -/
def escapeValue (high low : UInt8) : Option UInt8 :=
  match hexOctetValue high, hexOctetValue low with
  | some h, some l => some (h * 16 + l).toUInt8
  | _, _ => none

def decodeWith : Nat → Bytes → Bytes
  | _, [] => []
  | 0, bytes => bytes
  | fuel + 1, b :: rest =>
    if b = percent then
      match rest with
      | high :: low :: more =>
        match escapeValue high low with
        | some octet => octet :: decodeWith fuel more
        | none => b :: decodeWith fuel rest
      | _ => b :: decodeWith fuel rest
    else b :: decodeWith fuel rest

def percentDecode (bytes : Bytes) : Bytes := decodeWith bytes.length bytes

/-- Octets that a segment of a file path writes as escapes: controls, the blank, whatever ends a
path or a segment, quotes, brackets of the sorts that texts put around a URI, and the percent
sign itself. -/
def needsEscape (b : UInt8) : Bool :=
  b ≤ 32 || 127 ≤ b || [34, 35, 37, 47, 60, 62, 63, 92, 96, 123, 125].contains b

def encodeOctet (b : UInt8) : Bytes :=
  if needsEscape b then [percent, hexOctet (b.toNat / 16), hexOctet (b.toNat % 16)] else [b]

def percentEncode (bytes : Bytes) : Bytes := bytes.flatMap encodeOctet

end LookupBench.Uri
