import LookupBench.Yaml.Refusal

/-!
# The text of scalars

Scalars are written plain, in quotes, or as a block of lines. Where a plain or quoted one goes over
several lines, a single break reads as a blank, and of several breaks the first is dropped.
-/

namespace LookupBench.Yaml

/-- How a scalar is written. -/
inductive Style where
  | plain
  | singleQuoted
  | doubleQuoted
  | literal
  | folded
  deriving DecidableEq, Repr

def refuse {α : Type} (activity : Activity) (start : Mark) (problem : Problem) (c : Cursor) :
    Except Refusal α :=
  .error (.text problem c.mark (some (activity, start)))

/-- Blanks and breaks between two pieces of a scalar. -/
structure Gap where
  blanks : List Char := []
  /-- Whether a line has ended. Blanks then count for nothing. -/
  broken : Bool := false
  first : List Char := []
  later : List Char := []

namespace Gap

def text (g : Gap) : List Char :=
  if !g.broken then g.blanks
  else if g.first = ['\n'] then (if g.later.isEmpty then [' '] else g.later)
  else g.first ++ g.later

/-- A gap from a cursor on. In front of column `indent`, a tab may not start a line of it. -/
def read (start : Mark) (indent : Nat) : Nat → Gap → Cursor → Except Refusal (Gap × Cursor)
  | 0, g, c => .ok (g, c)
  | fuel + 1, g, c =>
    match c.peek? with
    | none => .ok (g, c)
    | some x =>
      if isBlank x then
        if g.broken && c.mark.column < indent && x = '\t' then
          refuse .plainScalar start .tabAgainstIndentation c
        else if g.broken then read start indent fuel g c.next
        else read start indent fuel { g with blanks := g.blanks ++ [x] } c.next
      else if isBreak x then
        let (line, after) := c.takeBreak
        if g.broken then read start indent fuel { g with later := g.later ++ line } after
        else read start indent fuel { g with broken := true, first := line } after
      else .ok (g, c)

end Gap

/-! ### Plain scalars -/

/-- What ends a plain scalar inside brackets. -/
def isFlowMark (x : Char) : Bool := x = ',' || x = '[' || x = ']' || x = '{' || x = '}'

/-- The characters up to the next blank, break or end of the scalar. -/
def plainWord (flow : Bool) (start : Mark) : Nat → Cursor → Except Refusal (List Char × Cursor)
  | 0, c => .ok ([], c)
  | fuel + 1, c =>
    match c.peek? with
    | none => .ok ([], c)
    | some x =>
      if isBlank x || isBreak x then .ok ([], c)
      else if flow && x = ':' && c.has (fun y => isFlowMark y || y = '?') 1 then
        refuse .plainScalar start .oddColon c
      else if (x = ':' && c.blankAt 1) || (flow && isFlowMark x) then .ok ([], c)
      else do
        let (word, c) ← plainWord flow start fuel c.next
        .ok (x :: word, c)

structure PlainText where
  text : List Char
  cursor : Cursor
  /-- Whether a line has ended behind the scalar. -/
  broken : Bool

def plainText (flow : Bool) (indent : Nat) (start : Mark) :
    Nat → PlainText → Gap → Except Refusal PlainText
  | 0, p, _ => .ok p
  | fuel + 1, p, gap =>
    let c := p.cursor
    if c.atMarker || c.looksAt '#' then .ok p
    else do
      let (word, c) ← plainWord flow start c.rest.length c
      let p := if word.isEmpty then { p with cursor := c }
        else ⟨p.text ++ gap.text ++ word, c, false⟩
      if !c.has fun x => isBlank x || isBreak x then .ok p
      else
        let gap := if word.isEmpty then gap else {}
        let (gap, c) ← gap.read start indent c.rest.length c
        let p := { p with cursor := c, broken := gap.broken }
        if !flow && c.mark.column < indent then .ok p
        else plainText flow indent start fuel p gap

/-! ### Quoted scalars -/

/-- The character that a letter stands for behind a backslash. -/
def escaped? (x : Char) : Option Char :=
  [('0', '\x00'), ('a', '\x07'), ('b', '\x08'), ('t', '\t'), ('\t', '\t'), ('n', '\n'),
    ('v', '\x0b'), ('f', '\x0c'), ('r', '\r'), ('e', '\x1b'), (' ', ' '), ('"', '"'), ('/', '/'),
    ('\\', '\\'), ('N', '\u0085'), ('_', '\u00a0'), ('L', '\u2028'), ('P', '\u2029')].lookup x

/-- How many hexadecimal digits follow a letter behind a backslash. -/
def escapeLength? (x : Char) : Option Nat := [('x', 2), ('u', 4), ('U', 8)].lookup x

def isScalarValue (n : Nat) : Bool := n < 0xD800 || (0xDFFF < n && n ≤ 0x10FFFF)

/-- A character written with a backslash. -/
def escapedChar (start : Mark) (c : Cursor) : Except Refusal (Char × Cursor) :=
  match c.peek? 1 with
  | none => refuse .quotedCharacter start .unknownEscape c
  | some x =>
    match escaped? x, escapeLength? x with
    | some y, _ => .ok (y, c.skip 2)
    | none, none => refuse .quotedCharacter start .unknownEscape c
    | none, some n =>
      let c := c.skip 2
      let digits := c.rest.take n
      match digits.mapM hexValue? with
      | none => refuse .quotedCharacter start .noHexDigit c
      | some values =>
        if values.length < n then refuse .quotedCharacter start .noHexDigit c
        else
          let code := values.foldl (fun m d => 16 * m + d) 0
          if isScalarValue code then .ok (Char.ofNat code, c.skip n)
          else refuse .quotedCharacter start .badCodePoint c

/-- The characters up to the next blank, break or quote. A backslash in front of a break drops it;
the third part says so. -/
def quotedWord (single : Bool) (start : Mark) :
    Nat → Cursor → Except Refusal (List Char × Bool × Cursor)
  | 0, c => .ok ([], false, c)
  | fuel + 1, c =>
    match c.peek? with
    | none => .ok ([], false, c)
    | some x =>
      if isBlank x || isBreak x then .ok ([], false, c)
      else if single && x = '\'' && c.looksAt '\'' 1 then do
        let (word, dropped, c) ← quotedWord single start fuel (c.skip 2)
        .ok ('\'' :: word, dropped, c)
      else if x = (if single then '\'' else '"') then .ok ([], false, c)
      else if !single && x = '\\' && c.has isBreak 1 then .ok ([], true, c.next.passBreak)
      else if !single && x = '\\' then do
        let (y, c) ← escapedChar start c
        let (word, dropped, c) ← quotedWord single start fuel c
        .ok (y :: word, dropped, c)
      else do
        let (word, dropped, c) ← quotedWord single start fuel c.next
        .ok (x :: word, dropped, c)

/-- A scalar behind its opening quote, and the cursor behind the closing one. -/
def quotedText (single : Bool) (start : Mark) :
    Nat → List Char → Cursor → Except Refusal (List Char × Cursor)
  | 0, text, c => .ok (text, c)
  | fuel + 1, text, c =>
    if c.atMarker then refuse .quotedScalar start .marker c
    else if c.atEnd then refuse .quotedScalar start .endOfText c
    else do
      let (word, dropped, c) ← quotedWord single start c.rest.length c
      let text := text ++ word
      if c.looksAt (if single then '\'' else '"') then .ok (text, c.next)
      else
        let (gap, c) ← Gap.read start 0 c.rest.length { broken := dropped } c
        quotedText single start fuel (text ++ gap.text) c

/-! ### Block scalars -/

/-- What becomes of the breaks at the end of a block. -/
inductive Chomping where
  | strip
  | clip
  | keep
  deriving DecidableEq, Repr

def chomping? (c : Cursor) : Option Chomping :=
  if c.looksAt '+' then some .keep else if c.looksAt '-' then some .strip else none

/-- Indentation that the header of a block asks for. -/
def blockIncrement (start : Mark) (c : Cursor) : Except Refusal (Option Nat × Cursor) :=
  match c.peek? with
  | some x =>
    if x = '0' then refuse .blockScalar start .zeroIndentation c
    else if isDigit x then .ok (some (x.toNat - 48), c.next)
    else .ok (none, c)
  | none => .ok (none, c)

/-- The header of a block behind its first character: chomping and indentation in either order. -/
def blockHeader (start : Mark) (c : Cursor) : Except Refusal (Chomping × Option Nat × Cursor) := do
  let (chomping, increment, c) ←
    match chomping? c with
    | some chomping => do
      let (increment, c) ← blockIncrement start c.next
      pure (chomping, increment, c)
    | none => do
      let (increment, c) ← blockIncrement start c
      match increment, chomping? c with
      | some n, some chomping => pure (chomping, some n, c.next)
      | increment, _ => pure (.clip, increment, c)
  let c := c.skipBlanks.skipComment
  if c.atBreak then .ok (chomping, increment, c.passBreak)
  else refuse .blockScalar start .noCommentOrBreak c

structure BlockGap where
  breaks : List Char
  /-- The widest indentation so far. -/
  widest : Nat
  cursor : Cursor

/-- Empty lines, and the indentation of the line behind them: up to a column, or all of it. -/
def blockGap (start : Mark) (indent : Option Nat) : Nat → BlockGap → Except Refusal BlockGap
  | 0, g => .ok g
  | fuel + 1, g =>
    let c := match indent with
      | none => g.cursor.skipWhile (· = ' ')
      | some n =>
        g.cursor.skip ((g.cursor.rest.takeWhile (· = ' ')).length.min (n - g.cursor.mark.column))
    let g := { g with widest := max g.widest c.mark.column, cursor := c }
    if indent.all (c.mark.column < ·) && c.looksAt '\t' then
      refuse .blockScalar start .tabInIndentation c
    else if c.has isBreak then
      let (line, c) := c.takeBreak
      blockGap start indent fuel { g with breaks := g.breaks ++ line, cursor := c }
    else .ok g

def blockGapFrom (start : Mark) (indent : Option Nat) (c : Cursor) : Except Refusal BlockGap :=
  blockGap start indent (c.rest.length + 1) ⟨[], 0, c⟩

/-- The lines of a block. `last` is the break of the line above, `blank` says whether that line
started with a blank. -/
def blockLines (literal : Bool) (chomping : Chomping) (start : Mark) (indent : Nat) :
    Nat → List Char → List Char → Bool → BlockGap → Except Refusal (List Char × BlockGap)
  | 0, text, _, _, gap => .ok (text, gap)
  | fuel + 1, text, last, blank, gap =>
    let c := gap.cursor
    if c.mark.column = indent && !c.atEnd then
      let leads := c.has isBlank
      let joined :=
        if !literal && last = ['\n'] && !blank && !leads then
          (if gap.breaks.isEmpty then [' '] else [])
        else last
      let (line, c) := c.takeWhile fun x => !isBreak x
      let text := text ++ joined ++ gap.breaks ++ line
      let (last, c) := c.takeBreak
      match blockGapFrom start (some indent) c with
      | .error e => .error e
      | .ok gap => blockLines literal chomping start indent fuel text last leads gap
    else
      .ok (match chomping with
        | .strip => text
        | .clip => text ++ last
        | .keep => text ++ last ++ gap.breaks, gap)

/-- A block behind its first character. `outer` is the indentation of what it stands in. -/
def blockText (literal : Bool) (outer : Int) (start : Mark) (c : Cursor) :
    Except Refusal (List Char × Cursor) := do
  let (chomping, increment, c) ← blockHeader start c
  let asked := increment.map fun n => (if 0 ≤ outer then outer.toNat + n else n)
  let gap ← blockGapFrom start asked c
  let indent := asked.getD (max (max gap.widest (outer + 1).toNat) 1)
  let (text, gap) ← blockLines literal chomping start indent (c.rest.length + 1) [] [] false gap
  .ok (text, gap.cursor)

end LookupBench.Yaml
