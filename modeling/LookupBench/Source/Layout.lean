import LookupBench.Source.NameChar

/-!
# Layout

Line ends and margins are tokens where the grammar has a use for them, and blanks elsewhere. So
what comes next depends on what is expected: a margin deeper than the current one opens a block
only where a block may open; a shallower one closes a block also where none may close, unless a
bracket is open or a line end could stand here.
-/

namespace LookupBench.Source

/-- A place in a source, and what scanning remembers there: the margins of the open blocks, the
innermost first, and whether the last string begun was a formatted one. `size` is the size of the
source; no loop over what is left takes more steps. -/
structure Cursor (src : List Char) where
  rest : List Char
  offset : Nat
  size : Nat
  margins : List Nat
  inFormat : Bool
  /-- What is left is what the source has from the offset on. -/
  rest_eq : rest = src.drop offset
  deriving Repr

variable {src : List Char}

namespace Cursor

def skip (n : Nat) (c : Cursor src) : Cursor src :=
  { c with
    rest := c.rest.drop n
    offset := c.offset + n
    rest_eq := by rw [c.rest_eq, List.drop_drop] }

/-- Where scanning starts: behind a byte order mark, if there is one. -/
def start (src : List Char) : Cursor src :=
  let c : Cursor src := ⟨src, 0, src.length, [0], false, rfl⟩
  if src.head?.any (·.toNat = 0xFEFF) then c.skip 1 else c

def margin (c : Cursor src) : Nat := c.margins.headD 0

end Cursor

/-- What may come at a place, as far as layout depends on it. -/
structure Expect where
  newline : Bool := false
  indent : Bool := false
  dedent : Bool := false
  quote : Bool := false
  closer : Bool := false
  handler : Bool := false

/-- Whether comments count as part of the margin. -/
def Expect.comments (e : Expect) : Bool := e.newline || e.indent || e.dedent || e.handler

/-- Blanks passed up to a token: whether a line ended, the width of the last margin, the margin of
the first comment on a line of its own, and where the token starts. -/
inductive Margin where
  | reached (ended : Bool) (width : Nat) (comment : Option Nat) (rest : List Char) (passed : Nat)
  | interrupted

/-- Tabs count for eight blanks. -/
def tabWidth : Nat := 8

/-- Pass blanks. `inComment` is set inside a comment that counts as part of the margin. -/
def passMargin (comments inComment ended : Bool) (width : Nat) (comment : Option Nat)
    (passed : Nat) : List Char → Margin
  | [] => .reached true 0 comment [] passed
  | '\n' :: rest => passMargin comments false (ended || !inComment) 0 comment (passed + 1) rest
  | c :: rest =>
    if inComment then
      if c.toNat = 0 then .reached ended width comment (c :: rest) passed
      else passMargin comments true ended width comment (passed + 1) rest
    else if c = ' ' then passMargin comments false ended (width + 1) comment (passed + 1) rest
    else if c = '\r' || c.toNat = 12 then passMargin comments false ended 0 comment (passed + 1) rest
    else if c = '\t' then
      passMargin comments false ended (width + tabWidth) comment (passed + 1) rest
    else if c = '#' && comments then
      if !ended then .interrupted
      else passMargin comments true ended 0 (comment <|> some width) (passed + 1) rest
    else if c = '\\' then
      match rest with
      | [] => .reached true 0 comment [] (passed + 1)
      | '\n' :: more => passMargin comments false ended width comment (passed + 2) more
      | ['\r'] => .reached true 0 comment [] (passed + 2)
      | '\r' :: '\n' :: more => passMargin comments false ended width comment (passed + 3) more
      | _ => .interrupted
    else .reached ended width comment (c :: rest) passed

/-- How a string begins: the letters in front of its quote, and the quote. -/
structure Quote where
  formatted : Bool
  raw : Bool
  bytes : Bool
  mark : Char
  triple : Bool
  deriving Repr, DecidableEq

def isQuoteMark (c : Char) : Bool := c = '"' || c = '\'' || c = '`'

/-- The beginning of a string and its size. Backquotes do not come in threes. -/
def quoteAt (q : Quote) (size : Nat) : List Char → Option (Quote × Nat)
  | [] => none
  | c :: rest =>
    if c = 'f' || c = 'F' then quoteAt { q with formatted := true } (size + 1) rest
    else if c = 'r' || c = 'R' then quoteAt { q with raw := true } (size + 1) rest
    else if c = 'b' || c = 'B' then quoteAt { q with bytes := true } (size + 1) rest
    else if c = 'u' || c = 'U' then quoteAt q (size + 1) rest
    else if c = '`' then some ({ q with mark := '`' }, size + 1)
    else if c = '"' || c = '\'' then
      if rest.take 2 = [c, c] then some ({ q with mark := c, triple := true }, size + 3)
      else some ({ q with mark := c }, size + 1)
    else none

/-- What layout makes of a place. -/
inductive Layout (src : List Char) where
  | newline
  | indent (width : Nat)
  | dedent
  | quote (q : Quote) (after : Cursor src)
  | nothing

def layout (e : Expect) (c : Cursor src) : Layout src :=
  match passMargin e.comments false false 0 none 0 c.rest with
  | .interrupted => .nothing
  | .reached ended width comment rest passed =>
    let atMark := (rest.head?.map isQuoteMark).getD false
    let mayClose := e.dedent || (!e.newline && !(e.quote && atMark) && !e.closer)
    if ended && e.indent && c.margin < width then .indent width
    else if ended && mayClose && width < c.margin && !c.inFormat
        && (comment.map fun m => decide (m < c.margin)).getD true then .dedent
    else if ended && e.newline then .newline
    else if e.quote && comment.isNone then
      match quoteAt ⟨false, false, false, '"', false⟩ 0 rest with
      | some (q, size) =>
        .quote q { c.skip (passed + size) with inFormat := q.formatted }
      | none => .nothing
    else .nothing

/-- Blanks between tokens, byte order marks and joiners of no width among them. -/
def isBlankChar (c : Char) : Bool :=
  c = ' ' || c = '\t' || c = '\n' || c = '\r' || c.toNat = 11 || c.toNat = 12
    || c.toNat = 0xFEFF || c.toNat = 0x2060 || c.toNat = 0x200B

def passBlanks (c : Cursor src) : Cursor src := c.skip (c.rest.takeWhile isBlankChar).length

/-- The size of a joint between two lines. -/
def jointAt : List Char → Option Nat
  | '\\' :: '\n' :: _ => some 2
  | '\\' :: '\r' :: '\n' :: _ => some 3
  | ['\\'] => some 1
  | ['\\', '\r'] => some 2
  | '\\' :: c :: _ => if c.toNat = 0 then some 2 else none
  | _ => none

def commentSize (cs : List Char) : Nat :=
  (cs.takeWhile fun c => c ≠ '\n' && c.toNat ≠ 0).length

/-- What comes next at a place. -/
inductive Look (src : List Char) where
  | newline
  | indent (width : Nat)
  | dedent
  | quote (q : Quote) (after : Cursor src)
  /-- A token of another sort; the cursor stands at its first character. -/
  | token (at_ : Cursor src)
  | finish

/-- Comments and joints between lines are passed, and layout is asked again behind each. -/
def lookWith (e : Expect) : Nat → Cursor src → Look src
  | 0, _ => .finish
  | fuel + 1, c =>
    match layout e c with
    | .newline => .newline
    | .indent width => .indent width
    | .dedent => .dedent
    | .quote q after => .quote q after
    | .nothing =>
      let c := passBlanks c
      match c.rest with
      | [] => .finish
      | '#' :: _ => lookWith e fuel (c.skip (commentSize c.rest))
      | _ =>
        match jointAt c.rest with
        | some size => lookWith e fuel (c.skip size)
        | none => .token c

def look (e : Expect) (c : Cursor src) : Look src := lookWith e (c.size + 1) c

end LookupBench.Source
