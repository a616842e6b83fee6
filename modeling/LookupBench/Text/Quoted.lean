import LookupBench.Text.Shapeless

/-!
# Quoted text in messages

A text is shown between double quotes with an escape for each quote, backslash and control, and a
braced code point for each character that has no shape of its own: unassigned and private ones,
formats, separators other than the blank, and marks that extend the character before them.
-/

namespace LookupBench

/-- Lower case hexadecimal digits, in front of `tail`. -/
def hexDigits : Nat → Nat → List Char → List Char
  | 0, _, tail => tail
  | fuel + 1, n, tail =>
    let d := n % 16
    let c := if d < 10 then Char.ofNat (48 + d) else Char.ofNat (87 + d)
    if n < 16 then c :: tail else hexDigits fuel (n / 16) (c :: tail)

def quotedChar (c : Char) : List Char :=
  if c = '"' then ['\\', '"']
  else if c = '\\' then ['\\', '\\']
  else if c = '\n' then ['\\', 'n']
  else if c = '\r' then ['\\', 'r']
  else if c = '\t' then ['\\', 't']
  else if c.toNat = 0 then ['\\', '0']
  else if isHidden c || isExtending c then '\\' :: 'u' :: '{' :: hexDigits 6 c.toNat ['}']
  else [c]

def quoted (s : String) : String := String.ofList ('"' :: s.toList.flatMap quotedChar ++ ['"'])

end LookupBench
