import LookupBench.Number.Shortest

/-!
# Reading YAML text

A cursor is what is left of a text, with the place where it starts. Lines end in a line feed, a
carriage return, both, or one of three Unicode breaks. Control characters stand nowhere in a text.
-/

namespace LookupBench.Yaml

/-- A place: characters, lines and columns in front of it. -/
structure Mark where
  offset : Nat := 0
  line : Nat := 0
  column : Nat := 0
  deriving DecidableEq, Repr, Inhabited

namespace Mark

/-- The first column of the text. Messages leave it out. -/
def isOrigin (m : Mark) : Bool := m.line = 0 && m.column = 0

def sameSpot (m n : Mark) : Bool := m.line = n.line && m.column = n.column

def text (m : Mark) : String :=
  "line " ++ Decimal.natText (m.line + 1) ++ " column " ++ Decimal.natText (m.column + 1)

def note (m : Mark) : String := if m.isOrigin then "" else " at " ++ m.text

end Mark

def isBlank (c : Char) : Bool := c = ' ' || c = '\t'

def isBreak (c : Char) : Bool :=
  c = '\n' || c = '\r' || c = '\u0085' || c = '\u2028' || c = '\u2029'

/-- Characters of names: anchors, tag handles, directives. -/
def isNameChar (c : Char) : Bool :=
  ('a' ≤ c && c ≤ 'z') || ('A' ≤ c && c ≤ 'Z') || ('0' ≤ c && c ≤ '9') || c = '_' || c = '-'

def isDigit (c : Char) : Bool := '0' ≤ c && c ≤ '9'

def hexValue? (c : Char) : Option Nat :=
  if '0' ≤ c && c ≤ '9' then some (c.toNat - 48)
  else if 'a' ≤ c && c ≤ 'f' then some (c.toNat - 87)
  else if 'A' ≤ c && c ≤ 'F' then some (c.toNat - 55)
  else none

/-- The mark that may stand in front of a whole text. -/
def byteOrderMark : Char := '\uFEFF'

/-- Whether a character may stand in a text at all. -/
def isAllowed (c : Char) : Bool :=
  let n := c.toNat
  n = 9 || n = 10 || n = 13 || (0x20 ≤ n && n ≤ 0x7E) || n = 0x85 || (0xA0 ≤ n && n ≤ 0xD7FF)
    || (0xE000 ≤ n && n ≤ 0xFFFD) || 0x10000 ≤ n

/-- The octets in front of the first character that is not allowed. -/
def firstForbidden : Nat → List Char → Option Nat
  | _, [] => none
  | octets, c :: rest =>
    if isAllowed c then firstForbidden (octets + c.utf8Size) rest else some octets

structure Cursor where
  rest : List Char
  mark : Mark
  deriving Repr

namespace Cursor

def peek? (c : Cursor) (i : Nat := 0) : Option Char := c.rest[i]?

/-- Whether a character of a class stands at an index. -/
def has (c : Cursor) (p : Char → Bool) (i : Nat := 0) : Bool := (c.peek? i).any p

def looksAt (c : Cursor) (x : Char) (i : Nat := 0) : Bool := c.peek? i = some x

def atEnd (c : Cursor) : Bool := c.rest.isEmpty

/-- At the end of the text or of a line. -/
def atBreak (c : Cursor) : Bool := (c.peek? 0).all isBreak

/-- Nothing, a blank or a break at an index. -/
def blankAt (c : Cursor) (i : Nat := 0) : Bool := (c.peek? i).all fun x => isBlank x || isBreak x

/-- Pass one character of a line. -/
def next (c : Cursor) : Cursor :=
  match c.rest with
  | [] => c
  | _ :: rest => ⟨rest, { c.mark with offset := c.mark.offset + 1, column := c.mark.column + 1 }⟩

def skip : Nat → Cursor → Cursor
  | 0, c => c
  | n + 1, c => skip n c.next

/-- Pass characters of a class. None of them is a break. -/
def skipWhile (p : Char → Bool) (c : Cursor) : Cursor :=
  skip (c.rest.takeWhile p).length c

def takeWhile (p : Char → Bool) (c : Cursor) : List Char × Cursor :=
  (c.rest.takeWhile p, c.skipWhile p)

/-- Pass a break; the character that stands for it in the text of a scalar. -/
def takeBreak (c : Cursor) : List Char × Cursor :=
  let moved (rest : List Char) (n : Nat) : Cursor :=
    ⟨rest, ⟨c.mark.offset + n, c.mark.line + 1, 0⟩⟩
  match c.rest with
  | '\r' :: '\n' :: rest => (['\n'], moved rest 2)
  | x :: rest =>
    if x = '\n' || x = '\r' || x = '\u0085' then (['\n'], moved rest 1)
    else if isBreak x then ([x], moved rest 1)
    else ([], c)
  | [] => ([], c)

def passBreak (c : Cursor) : Cursor := c.takeBreak.2

def skipBlanks (c : Cursor) : Cursor := c.skipWhile isBlank

/-- Pass a comment, up to the end of its line. -/
def skipComment (c : Cursor) : Cursor :=
  if c.looksAt '#' then c.skipWhile fun x => !isBreak x else c

/-- Three characters at the start of a line that stand alone. -/
def startsWithMarker (c : Cursor) (x : Char) : Bool :=
  c.mark.column = 0 && c.looksAt x 0 && c.looksAt x 1 && c.looksAt x 2 && c.blankAt 3

/-- Whether a document starts or ends here. -/
def atMarker (c : Cursor) : Bool := c.startsWithMarker '-' || c.startsWithMarker '.'

end Cursor

end LookupBench.Yaml
