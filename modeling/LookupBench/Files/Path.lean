import LookupBench.Text.Utf8

/-!
# Paths

A path is a run of octets in which slashes separate components. Repeated slashes and single dots
name nothing of their own; two dots do, since what they name depends on links.
-/

namespace LookupBench

abbrev Path := Bytes

namespace Path

def slash : UInt8 := 47
def dot : UInt8 := 46

def ofString (s : String) : Path := Utf8.encode s

/-- The text that shows a path; octets that are no UTF-8 are replaced. -/
def display (p : Path) : String := Utf8.decodeStringLossy p

def isAbsolute (p : Path) : Bool := p.head? = some slash

/-- The pieces between slashes, empty ones included. -/
def pieces : Path → List Bytes
  | [] => [[]]
  | b :: rest =>
    if b = slash then [] :: pieces rest
    else match pieces rest with
      | [] => [[b]]
      | piece :: more => (b :: piece) :: more

/-- Names and double dots, in order. A leading single dot of a relative path counts as well. -/
def components (p : Path) : List Bytes :=
  let plain := (pieces p).filter fun c => c ≠ [] && c ≠ [dot]
  if (pieces p).head? = some [dot] then [dot] :: plain else plain

/-- Components one after the other, with slashes between them. -/
def joinComponents : List Bytes → Bytes
  | [] => []
  | [c] => c
  | c :: rest => c ++ slash :: joinComponents rest

/-- An absolute path of names. -/
def ofNames (names : List Bytes) : Path :=
  if names.isEmpty then [slash] else names.flatMap (slash :: ·)

/-- `q` as seen from `p`. -/
def join (p q : Path) : Path :=
  if q.isAbsolute || p.isEmpty then q
  else if p.getLast? = some slash then p ++ q
  else p ++ slash :: q

/-- Pieces without the ones at the end that name nothing. -/
def trimPieces (ps : List Bytes) : List Bytes :=
  (ps.reverse.dropWhile fun c => c = [] || c = [dot]).reverse

/-- The slash of an absolute path, or the leading dot of a relative one. -/
def start (p : Path) : Bytes :=
  if p.isAbsolute then [slash] else if (pieces p).head? = some [dot] then [dot] else []

/-- The path without its last component. What stands in front of it is kept as it is written. -/
def parent (p : Path) : Option Path :=
  let body := trimPieces (pieces (p.drop (start p).length))
  if body.isEmpty then
    if start p = [dot] then some [] else none
  else some (start p ++ joinComponents (trimPieces body.dropLast))

/-- The last component, when it is a name. -/
def fileName (p : Path) : Option Bytes :=
  match (components p).getLast? with
  | none => none
  | some c => if c = [dot] || c = [dot, dot] then none else some c

/-- What follows the last dot of a name; a dot in front of the whole name does not count. -/
def nameExtension (name : Bytes) : Option Bytes :=
  let after := (name.reverse.takeWhile (· ≠ dot)).reverse
  if after.length + 1 ≤ name.length - 1 then some after
  else none

def hasExtension (ext : Bytes) (p : Path) : Bool :=
  match p.fileName with
  | none => false
  | some name => nameExtension name = some ext

end Path

end LookupBench
