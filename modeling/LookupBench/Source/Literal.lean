import LookupBench.Source.Layout

/-!
# Numbers and the insides of strings

How far a number reaches, and the pieces of a string: runs of plain text, escapes, and braces that
open an interpolation.
-/

namespace LookupBench.Source

variable {src : List Char}

/-! ### Numbers -/

/-- Digits with single underscores behind them. -/
def digitRun (after : Bool) : List Char → Nat
  | [] => 0
  | c :: rest =>
    if isAsciiDigit c then digitRun true rest + 1
    else if c = '_' && after then digitRun false rest + 1
    else 0

/-- Digits with single underscores in front of them. -/
def prefixedRun (digit : Char → Bool) : List Char → Nat
  | [] => 0
  | c :: rest =>
    if digit c then prefixedRun digit rest + 1
    else if c = '_' then
      match rest with
      | d :: _ => if digit d then prefixedRun digit rest + 1 else 0
      | [] => 0
    else 0

def isHex (c : Char) : Bool :=
  isAsciiDigit c || ('a' ≤ c && c ≤ 'f') || ('A' ≤ c && c ≤ 'F')

def oneOf (marks : List Char) : List Char → Nat
  | [] => 0
  | c :: _ => if marks.contains c then 1 else 0

def basedSize (cs : List Char) : Nat :=
  match cs with
  | '0' :: mark :: rest =>
    let run :=
      if mark = 'x' || mark = 'X' then prefixedRun isHex rest
      else if mark = 'o' || mark = 'O' then prefixedRun (fun c => '0' ≤ c && c ≤ '7') rest
      else if mark = 'b' || mark = 'B' then prefixedRun (fun c => c = '0' || c = '1') rest
      else 0
    if run = 0 then 0 else 2 + run + oneOf ['L', 'l'] (rest.drop run)
  | _ => 0

def exponentSize (cs : List Char) : Nat :=
  match cs with
  | mark :: rest =>
    if mark = 'e' || mark = 'E' then
      let sign := oneOf ['+', '-'] rest
      let run := digitRun false (rest.drop sign)
      if run = 0 then 0 else 1 + sign + run
    else 0
  | [] => 0

def imaginarySize (cs : List Char) : Nat := oneOf ['J', 'j'] cs

/-- An exponent, if there is one, and a mark of the imaginary unit. -/
def tailSize (cs : List Char) : Nat :=
  let e := exponentSize cs
  e + imaginarySize (cs.drop e)

def decimalSize (cs : List Char) : Nat :=
  let whole := digitRun false cs
  let behind := cs.drop whole
  match behind with
  | '.' :: rest =>
    let places := digitRun false rest
    if whole = 0 && places = 0 then 0
    else whole + 1 + places + tailSize (rest.drop places)
  | _ =>
    if whole = 0 then 0
    else
      let e := exponentSize behind
      if e = 0 then whole + oneOf ['L', 'l', 'J', 'j'] behind
      else whole + e + imaginarySize (behind.drop e)

/-- The size of the number that a text starts with; zero if it starts with none. -/
def numberSize (cs : List Char) : Nat := max (basedSize cs) (decimalSize cs)

/-! ### Strings -/

/-- What a run of plain text ends in. -/
inductive Run where
  | content (size : Nat)
  | close (size : Nat)
  | none
  deriving Repr, DecidableEq

def Run.orNone (some_ : Bool) (size : Nat) : Run := if some_ then .content size else .none

/-- What a backslash takes along in a raw string. -/
def rawEscape (q : Quote) (cs : List Char) : Nat :=
  let first := match cs with
    | c :: _ => if c = q.mark || c = '\\' then 1 else 0
    | [] => 0
  match cs.drop first with
  | '\r' :: '\n' :: _ => first + 2
  | '\r' :: _ => first + 1
  | '\n' :: _ => first + 1
  | _ => first

/-- Plain text up to an escape, a brace that counts, or the end of the string. `some_` tells whether
the run holds anything yet; `size` is how far it has come. -/
def textRun (q : Quote) : Nat → Bool → Nat → List Char → Run
  | 0, _, _, _ => .none
  | _ + 1, _, _, [] => .none
  | fuel + 1, some_, size, c :: rest =>
    if c.toNat = 0 then .none
    else if (c = '{' || c = '}') && q.formatted then .orNone some_ size
    else if c = '\\' then
      if q.raw then
        let n := rawEscape q rest
        textRun q fuel some_ (size + 1 + n) (rest.drop n)
      else if q.bytes then
        match rest with
        | d :: _ =>
          if d = 'N' || d = 'u' || d = 'U' then textRun q fuel true (size + 3) (rest.drop 2)
          else .orNone some_ size
        | [] => .orNone some_ size
      else .orNone some_ size
    else if c = q.mark then
      if q.triple then
        if rest.take 2 = [c, c] then if some_ then .content size else .close (size + 3)
        else if rest.take 1 = [c] then .content (size + 2)
        else .content (size + 1)
      else if some_ then .content size
      else .close (size + 1)
    else if c = '\n' && some_ && !q.triple then .none
    else textRun q fuel true (size + 1) rest

def hexes (n : Nat) (cs : List Char) : Bool := (cs.take n).length = n && (cs.take n).all isHex

/-- The size of an escape, its backslash included; zero if none stands here. -/
def escapeSize : List Char → Nat
  | '\\' :: rest =>
    match rest with
    | 'u' :: more => if hexes 4 more then 6 else 0
    | 'U' :: more => if hexes 8 more then 10 else 0
    | 'x' :: more => if hexes 2 more then 4 else 0
    | '\n' :: _ => 2
    | '\r' :: '\n' :: _ => 3
    | 'N' :: '{' :: more =>
      let name := (more.takeWhile (· ≠ '}')).length
      if name = 0 || more.length ≤ name then 0 else name + 4
    | c :: more =>
      if isAsciiDigit c then 2 + ((more.take 2).takeWhile isAsciiDigit).length
      else if ['\'', '"', 'a', 'b', 'f', 'r', 'n', 't', 'v', '\\'].contains c then 2
      else 0
    | [] => 0
  | _ => 0

/-- The next piece of a string. -/
inductive Piece (src : List Char) where
  | text (after : Cursor src)
  | close (after : Cursor src)
  /-- A brace that opens an interpolation; the cursor stands behind it. -/
  | brace (after : Cursor src)
  | broken

/-- A piece where no plain text stands: an escape, a comment between pieces, or a brace. -/
def oddPiece (c : Cursor src) : Piece src :=
  let n := escapeSize c.rest
  if n ≠ 0 then .text (c.skip n)
  else match c.rest with
    | '\\' :: _ => .text (c.skip 1)
    | _ =>
      let c := passBlanks c
      match c.rest with
      | '#' :: _ => .text (c.skip (commentSize c.rest))
      | '{' :: _ => .brace (c.skip 1)
      | _ =>
        match jointAt c.rest with
        | some size => .text (c.skip size)
        | none => .broken

def piece (q : Quote) (c : Cursor src) : Piece src :=
  match c.rest with
  | '{' :: '{' :: _ | '}' :: '}' :: _ =>
    if q.formatted then .text (c.skip 2) else plain
  | _ => plain
where
  plain : Piece src :=
    match textRun q (c.size + 1) false 0 c.rest with
    | .content size => .text (c.skip size)
    | .close size => .close { c.skip size with inFormat := false }
    | .none => oddPiece c

/-- The text between the braces of a format. -/
def formatTextSize (cs : List Char) : Nat :=
  let blank := (cs.takeWhile (· = '\n')).length
  let run := ((cs.drop blank).takeWhile fun c =>
    c ≠ '{' && c ≠ '}' && c ≠ '\n' && c.toNat ≠ 0).length
  if run = 0 then 0 else blank + run

end LookupBench.Source
