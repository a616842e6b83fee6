import LookupBench.Uri.Fold
import LookupBench.Uri.Percent
import LookupBench.Number.Parse

/-!
# Hosts

Which texts are hosts: names that can be brought to ASCII, IPv4 addresses in their many spellings,
IPv6 addresses in brackets, and opaque hosts of schemes that say nothing about them. How names are
brought to ASCII is a standard of its own with tables of its own, and a parameter here.
-/

namespace LookupBench.Uri

open scoped Power

def splitAt (sep : Char) : List Char → List (List Char)
  | [] => [[]]
  | c :: rest =>
    if c = sep then [] :: splitAt sep rest
    else match splitAt sep rest with
      | [] => [[c]]
      | piece :: more => (c :: piece) :: more

/-! ### IPv4 -/

def isHexDigit (c : Char) : Bool :=
  isAsciiDigit c || ('a' ≤ c && c ≤ 'f') || ('A' ≤ c && c ≤ 'F')

def hexDigitValue (c : Char) : Nat :=
  if isAsciiDigit c then c.toNat - 48 else if c.toNat < 97 then c.toNat - 55 else c.toNat - 87

def radixValue (radix : Nat) (cs : List Char) : Nat :=
  cs.foldl (fun n c => radix * n + hexDigitValue c) 0

/-- A number in hexadecimal, octal or decimal notation. -/
def ipv4Number (cs : List Char) : Option Nat :=
  match cs with
  | [] => none
  | '0' :: 'x' :: ds | '0' :: 'X' :: ds =>
    if ds.all isHexDigit then some (radixValue 16 ds) else none
  | '0' :: d :: ds =>
    if (d :: ds).all fun c => '0' ≤ c && c ≤ '7' then some (radixValue 8 (d :: ds)) else none
  | ds => if ds.all isAsciiDigit then some (radixValue 10 ds) else none

/-- The pieces of a dotted name; a dot at the end stands for nothing. -/
def dotted (name : List Char) : List (List Char) :=
  let pieces := splitAt '.' name
  if 2 ≤ pieces.length && pieces.getLast? = some [] then pieces.dropLast else pieces

/-- Whether a name ends like an address, so that it has to be one. -/
def endsInNumber (name : List Char) : Bool :=
  match (dotted name).getLast? with
  | none => false
  | some piece =>
    (!piece.isEmpty && piece.all isAsciiDigit) || (ipv4Number piece).isSome

/-- Up to four numbers; the last one fills the octets that are left. -/
def isIpv4 (name : List Char) : Bool :=
  let pieces := dotted name
  match pieces.mapM ipv4Number with
  | none => false
  | some numbers =>
    numbers.length ≤ 4 && numbers.dropLast.all (· ≤ 255)
      && (numbers.getLast?.getD 0) < 256 ^ (5 - numbers.length)

/-! ### IPv6 -/

/-- Four decimal octets that fill the last two pieces. -/
def isIpv4Tail (cs : List Char) : Bool :=
  let pieces := splitAt '.' cs
  pieces.length = 4 && pieces.all fun p =>
    !p.isEmpty && p.all isAsciiDigit && (p.length = 1 || p.head? ≠ some '0')
      && p.length ≤ 3 && decimalValue p ≤ 255

/-- Pieces read up to the end; `count` pieces and perhaps one gap lie before. -/
def ipv6Pieces : Nat → Nat → Bool → List Char → Bool
  | 0, _, _, _ => false
  | _ + 1, count, gap, [] => if gap then true else count = 8
  | fuel + 1, count, gap, c :: rest =>
    if 8 ≤ count then false
    else if c = ':' then !gap && ipv6Pieces fuel (count + 1) true rest
    else
      let digits := ((c :: rest).take 4).takeWhile isHexDigit
      match (c :: rest).drop digits.length with
      | [] => !digits.isEmpty && ipv6Pieces fuel (count + 1) gap []
      | '.' :: _ =>
        !digits.isEmpty && count ≤ 6 && isIpv4Tail (c :: rest) && (gap || count = 6)
      | ':' :: more => !more.isEmpty && ipv6Pieces fuel (count + 1) gap more
      | _ => false

def isIpv6 (cs : List Char) : Bool :=
  match cs with
  | ':' :: ':' :: rest => ipv6Pieces (rest.length + 1) 1 true rest
  | ':' :: _ => false
  | [] | [_] => false
  | _ => ipv6Pieces (cs.length + 1) 0 false cs

/-! ### Names -/

def punycodeDigit (c : Char) : Option Nat :=
  if 'a' ≤ c ∧ c ≤ 'z' then some (c.toNat - 97)
  else if 'A' ≤ c ∧ c ≤ 'Z' then some (c.toNat - 65)
  else if isAsciiDigit c then some (c.toNat - 22)
  else none

def adaptLoop : Nat → Nat → Nat → Nat × Nat
  | 0, delta, k => (delta, k)
  | fuel + 1, delta, k => if 455 < delta then adaptLoop fuel (delta / 35) (k + 36) else (delta, k)

def adapt (delta points : Nat) (first : Bool) : Nat :=
  let delta := if first then delta / 700 else delta / 2
  let (delta, k) := adaptLoop 20 (delta + delta / points) 0
  k + 36 * delta / (delta + 38)

/-- One generalised number: how far to go on, and the digits left. -/
def punycodeDelta (bias : Nat) : Nat → Nat → Nat → List Char → Option (Nat × List Char)
  | _, _, _, [] => none
  | k, weight, sum, c :: rest =>
    match punycodeDigit c with
    | none => none
    | some d =>
      let sum := sum + d * weight
      let t := if k ≤ bias then 1 else if bias + 26 ≤ k then 26 else k - bias
      if 2 ^ (32 : Nat) ≤ sum then none
      else if d < t then some (sum, rest)
      else punycodeDelta bias (k + 36) (weight * (36 - t)) sum rest

def isScalar (n : Nat) : Bool := n < 0xD800 || (0xE000 ≤ n && n < 0x110000)

def punycodeInsert : Nat → Nat → Nat → Nat → List Char → List Char → Option (List Char)
  | 0, _, _, _, _, _ => none
  | _ + 1, _, _, _, out, [] => some out
  | fuel + 1, n, i, bias, out, digits =>
    match punycodeDelta bias 36 1 i digits with
    | none => none
    | some (j, rest) =>
      let size := out.length + 1
      let bias := adapt (j - i) size (i = 0)
      let n := n + j / size
      let at_ := j % size
      if !isScalar n then none
      else
        let out := out.take at_ ++ Char.ofNat n :: out.drop at_
        punycodeInsert fuel n (at_ + 1) bias out rest

/-- The letters in front of the last hyphen stand for themselves. -/
def punycodeDecode (cs : List Char) : Option (List Char) :=
  let digits := (cs.reverse.takeWhile (· ≠ '-')).reverse
  let plain := (cs.take (cs.length - digits.length)).dropLast
  punycodeInsert (digits.length + 1) 128 0 72 plain digits

/-- A label that claims to be encoded must decode to one that needs the encoding. -/
def isLabel (label : List Char) : Bool :=
  match label with
  | 'x' :: 'n' :: '-' :: '-' :: rest =>
    match punycodeDecode rest with
    | none => false
    | some decoded =>
      decoded.any (0x80 ≤ ·.toNat) && fold decoded = some decoded
        && (decoded.head?.map isExtending).getD true = false
  | [] => true
  | c :: _ => !isExtending c

/-- A way to bring names of hosts to ASCII. A name that is not allowed has no such form. -/
abbrev ToAscii := List Char → Option (List Char)

/-- What can be done with the foldings and the rules for labels that are known here. Labels are left
as they are when they cannot be told from their encoding. -/
def foldName? : ToAscii := fun name =>
  (fold name).filter fun folded => (splitAt '.' folded).all isLabel

/-- Characters that no name may hold. -/
def isForbiddenInName (c : Char) : Bool :=
  c.toNat ≤ 0x20 || c.toNat = 0x7F || "%#/:<>?@[\\]^|".toList.contains c

/-- The name of the host that a text names. -/
def hostName? (toAscii : ToAscii) (text : List Char) : Option (List Char) :=
  match Utf8.decode? (percentDecode (Utf8.encodeChars text)) with
  | none => none
  | some decoded =>
    match toAscii decoded with
    | none => none
    | some name =>
      if name.isEmpty || name.any isForbiddenInName then none
      else if endsInNumber name && !isIpv4 name then none
      else some name

/-- The text between brackets must be an IPv6 address, and other hosts names. -/
def host? (toAscii : ToAscii) (text : List Char) : Option (List Char) :=
  match text with
  | '[' :: rest =>
    if rest.getLast? = some ']' && isIpv6 rest.dropLast then some text else none
  | _ => hostName? toAscii text

/-- A host of a scheme without rules of its own. -/
def isOpaqueHost (text : List Char) : Bool :=
  match text with
  | '[' :: rest => rest.getLast? = some ']' && isIpv6 rest.dropLast
  | _ => !text.any fun c => c.toNat = 0 || " #/:<>?@[\\]^|\t\n\r".toList.contains c

end LookupBench.Uri
