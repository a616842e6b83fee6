import LookupBench.Text.Utf8

/-!
# Lines and columns

A line ends at a line feed; one carriage return just before it belongs to the ending. A last line
without an ending counts when it is not empty. Columns are counted in UTF-16 code units, the unit
of editor positions.
-/

namespace LookupBench

/-- One unit inside the basic plane, two outside. -/
def utf16Width (c : Char) : Nat := if c.toNat < 0x10000 then 1 else 2

def utf16Length : List Char → Nat
  | [] => 0
  | c :: rest => utf16Width c + utf16Length rest

/-- The characters that take up so many octets at the start of a line; none if the line has no
character that ends there. -/
def spanOf? : Nat → List Char → Option (List Char)
  | 0, _ => some []
  | _ + 1, [] => none
  | n + 1, c :: rest =>
    let size := (Utf8.encodeChar c).length
    if size ≤ n + 1 then (spanOf? (n + 1 - size) rest).map (c :: ·) else none

/-- The column of an offset in octets into a line. One that stands between no two characters counts
as it is. -/
def utf16Column (line : List Char) (octets : Nat) : Nat :=
  ((spanOf? octets line).map utf16Length).getD octets

/-- The lines of a text, without their endings. A carriage return that no line feed follows stays
in its line. -/
def linesOf : List Char → List (List Char)
  | [] => []
  | '\n' :: rest => [] :: linesOf rest
  | '\r' :: '\n' :: rest => [] :: linesOf rest
  | c :: rest =>
    match linesOf rest with
    | [] => [[c]]
    | line :: lines => (c :: line) :: lines

end LookupBench
