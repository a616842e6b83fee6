import LookupBench.Yaml.Tag

/-!
# Tokens

Text in tokens. Indentation is made visible: a block opens with a token of its own and closes with
another one. That a piece of text is the key of a mapping shows only at the colon behind it, so the
places where a key may have started are kept, and its tokens are put in front of it later. Tokens
are therefore read ahead no further than needed: while a possible key stands first in the queue.
-/

namespace LookupBench.Yaml

inductive TokenKind where
  | streamStart
  | streamEnd
  | directive (directive : Directive)
  | documentStart
  | documentEnd
  | sequenceBlock
  | mappingBlock
  | blockEnd
  | openBracket
  | closeBracket
  | openBrace
  | closeBrace
  | comma
  | dash
  | key
  | value
  | alias (name : List Char)
  | anchor (name : List Char)
  | tag (tag : Tag)
  | scalar (style : Style) (text : List Char)
  deriving DecidableEq, Repr

structure Token where
  kind : TokenKind
  start : Mark
  stop : Mark
  deriving Repr

/-- A place where a key may have started. -/
structure Candidate where
  /-- Nothing but a key can stand there. -/
  required : Bool
  /-- The number of its first token. -/
  number : Nat
  mark : Mark
  deriving Repr

structure Lexer where
  cursor : Cursor
  queue : List Token := []
  /-- How many tokens have left the queue. -/
  taken : Nat := 0
  /-- For each open bracket, innermost first, and for the block around them all. -/
  candidates : List (Option Candidate) := [none]
  /-- Columns of the open blocks, innermost first. -/
  indents : List Nat := []
  /-- Whether a key may start here. -/
  keyAllowed : Bool := true

namespace Lexer

def ofText (text : List Char) : Lexer :=
  let cursor : Cursor := ⟨text, {}⟩
  { cursor, queue := [⟨.streamStart, cursor.mark, cursor.mark⟩] }

/-- Whether a bracket is open. -/
def inFlow (l : Lexer) : Bool := 1 < l.candidates.length

def indent (l : Lexer) : Int :=
  match l.indents with
  | [] => -1
  | column :: _ => column

def add (kind : TokenKind) (start stop : Mark) (l : Lexer) : Lexer :=
  { l with queue := l.queue ++ [⟨kind, start, stop⟩] }

/-- Put a token in front of the token with a number. -/
def insert (kind : TokenKind) (number : Nat) (mark : Mark) (l : Lexer) : Lexer :=
  let n := number - l.taken
  { l with queue := l.queue.take n ++ ⟨kind, mark, mark⟩ :: l.queue.drop n }

/-- Pass `n` characters that are a token. -/
def addMark (kind : TokenKind) (n : Nat) (l : Lexer) : Lexer :=
  let c := l.cursor.skip n
  { l with cursor := c }.add kind l.cursor.mark c.mark

/-! ### Indentation -/

/-- Open a block at a column, unless one is open there. -/
def openBlock (kind : TokenKind) (column : Nat) (number : Option Nat) (mark : Mark) (l : Lexer) :
    Lexer :=
  if l.inFlow || (column : Int) ≤ l.indent then l
  else
    let l := { l with indents := column :: l.indents }
    match number with
    | none => l.add kind mark mark
    | some n => l.insert kind n mark

/-- Close the blocks that are open to the right of a column. -/
def closeBlocks (column : Int) (l : Lexer) : Lexer :=
  if l.inFlow then l
  else
    let closed := l.indents.takeWhile fun i : Nat => column < i
    let mark := l.cursor.mark
    { l with
      indents := l.indents.drop closed.length
      queue := l.queue ++ closed.map fun _ => ⟨.blockEnd, mark, mark⟩ }

/-! ### Keys -/

def noColon {α : Type} (candidate : Candidate) (l : Lexer) : Except Refusal α :=
  refuse .simpleKey candidate.mark .noColon l.cursor

/-- Give up the possible key of the innermost bracket. -/
def dropCandidate (l : Lexer) : Except Refusal Lexer :=
  match l.candidates with
  | some candidate :: rest =>
    if candidate.required then l.noColon candidate
    else .ok { l with candidates := none :: rest }
  | _ => .ok l

/-- A key may start here. -/
def addCandidate (l : Lexer) : Except Refusal Lexer :=
  if !l.keyAllowed then .ok l
  else do
    let required := !l.inFlow && l.indent = l.cursor.mark.column
    let number := l.taken + l.queue.length
    let l ← l.dropCandidate
    .ok { l with candidates := some ⟨required, number, l.cursor.mark⟩ :: l.candidates.drop 1 }

/-- A key ends on its line and has no more than 1024 characters. -/
def isStale (c : Cursor) (candidate : Candidate) : Bool :=
  candidate.mark.line < c.mark.line || candidate.mark.offset + 1024 < c.mark.offset

/-- Give up the keys that have become too long, outermost first. -/
def dropStale (l : Lexer) : Except Refusal Lexer :=
  let stale := l.candidates.reverse.filterMap fun candidate => candidate.filter (isStale l.cursor)
  match stale.find? (·.required) with
  | some candidate => l.noColon candidate
  | none =>
    .ok { l with candidates := l.candidates.map fun candidate =>
      candidate.filter fun k => !isStale l.cursor k }

/-! ### Between tokens -/

/-- Pass blanks, comments and breaks. Tabs do not indent, so they count as blanks only where no
key may start. -/
def passSpace : Nat → Lexer → Lexer
  | 0, l => l
  | fuel + 1, l =>
    let c := l.cursor
    let c := if c.mark.offset = 0 && c.looksAt byteOrderMark then c.next else c
    let tabs := l.inFlow || !l.keyAllowed
    let c := (c.skipWhile fun x => x = ' ' || (tabs && x = '\t')).skipComment
    if c.has isBreak then
      passSpace fuel { l with cursor := c.passBreak, keyAllowed := l.keyAllowed || !l.inFlow }
    else { l with cursor := c }

/-! ### One token -/

/-- A token that may start a key. -/
def startKey (l : Lexer) : Except Refusal Lexer :=
  l.addCandidate.map fun l => { l with keyAllowed := false }

def lexEnd (l : Lexer) : Except Refusal Lexer := do
  let m := l.cursor.mark
  let mark : Mark := if m.column = 0 then m else { m with line := m.line + 1, column := 0 }
  let l := { l with cursor := { l.cursor with mark := mark } }.closeBlocks (-1)
  let l ← l.dropCandidate
  .ok ({ l with keyAllowed := false }.add .streamEnd mark mark)

/-- What stands at the left margin closes all blocks. -/
def atMargin (l : Lexer) : Except Refusal Lexer := do
  let l ← (l.closeBlocks (-1)).dropCandidate
  .ok { l with keyAllowed := false }

def lexDirective (l : Lexer) : Except Refusal Lexer := do
  let l ← l.atMargin
  let (directive, c) ← Directive.read l.cursor
  .ok ({ l with cursor := c }.add (.directive directive) l.cursor.mark c.mark)

def lexMarker (kind : TokenKind) (l : Lexer) : Except Refusal Lexer :=
  l.atMargin.map (addMark kind 3)

def lexOpen (kind : TokenKind) (l : Lexer) : Except Refusal Lexer :=
  l.addCandidate.map fun l =>
    { l with candidates := none :: l.candidates, keyAllowed := true }.addMark kind 1

def lexClose (kind : TokenKind) (l : Lexer) : Except Refusal Lexer :=
  l.dropCandidate.map fun l =>
    let candidates := if l.inFlow then l.candidates.drop 1 else l.candidates
    { l with candidates, keyAllowed := false }.addMark kind 1

def lexComma (l : Lexer) : Except Refusal Lexer :=
  l.dropCandidate.map fun l => { l with keyAllowed := true }.addMark .comma 1

/-- A dash or a question mark, or a colon behind no simple key: outside brackets, it stands where a
key may start. -/
def lexBlockMark (kind block : TokenKind) (problem : Problem) (l : Lexer) :
    Except Refusal Lexer :=
  if !l.inFlow && !l.keyAllowed then .error (.text problem l.cursor.mark none)
  else
    let mark := l.cursor.mark
    (l.openBlock block mark.column none mark).dropCandidate.map fun l =>
      { l with keyAllowed := kind = TokenKind.dash || !l.inFlow }.addMark kind 1

def lexValue (l : Lexer) : Except Refusal Lexer :=
  match l.candidates with
  | some candidate :: rest =>
    let l := l.insert .key candidate.number candidate.mark
    let l := l.openBlock .mappingBlock candidate.mark.column (some candidate.number) candidate.mark
    .ok ({ l with candidates := none :: rest, keyAllowed := false }.addMark .value 1)
  | _ => l.lexBlockMark .value .mappingBlock .valueNotAllowed

/-- The name of an anchor or an alias. -/
def lexName (activity : Activity) (kind : List Char → TokenKind) (l : Lexer) :
    Except Refusal Lexer := do
  let l ← l.startKey
  let start := l.cursor.mark
  let (name, c) := l.cursor.next.takeWhile isNameChar
  if name.isEmpty || !(c.blankAt || c.has ['?', ':', ',', ']', '}', '%', '@', '`'].contains) then
    refuse activity start .noNameChar c
  else .ok ({ l with cursor := c }.add (kind name) start c.mark)

def lexTag (l : Lexer) : Except Refusal Lexer := do
  let l ← l.startKey
  let start := l.cursor.mark
  let (tag, c) ← Tag.read l.inFlow start l.cursor
  .ok ({ l with cursor := c }.add (.tag tag) start c.mark)

def lexBlock (literal : Bool) (l : Lexer) : Except Refusal Lexer := do
  let l ← l.dropCandidate
  let start := l.cursor.mark
  let (text, c) ← blockText literal l.indent start l.cursor.next
  let style := if literal then Style.literal else .folded
  .ok ({ l with cursor := c, keyAllowed := true }.add (.scalar style text) start c.mark)

def lexQuoted (single : Bool) (l : Lexer) : Except Refusal Lexer := do
  let l ← l.startKey
  let start := l.cursor.mark
  let c := l.cursor.next
  let (text, c) ← quotedText single start (c.rest.length + 2) [] c
  let style := if single then Style.singleQuoted else .doubleQuoted
  .ok ({ l with cursor := c }.add (.scalar style text) start c.mark)

def lexPlain (l : Lexer) : Except Refusal Lexer := do
  let l ← l.startKey
  let c := l.cursor
  let indent := (l.indent + 1).toNat
  let p ← plainText l.inFlow indent c.mark (c.rest.length + 1) ⟨[], c, false⟩ {}
  .ok ({ l with cursor := p.cursor, keyAllowed := p.broken }.add (.scalar .plain p.text) c.mark
    p.cursor.mark)

/-- Marks that start no plain scalar. Some start one when something follows them. -/
def isIndicator (x : Char) : Bool :=
  ['-', '?', ':', ',', '[', ']', '{', '}', '#', '&', '*', '!', '|', '>', '\'', '"', '%', '@',
    '`'].contains x

def startsPlain (l : Lexer) (x : Char) : Bool :=
  let c := l.cursor
  !(isBlank x || isBreak x || isIndicator x)
    || (x = '-' && !c.has isBlank 1)
    || (!l.inFlow && (x = '?' || x = ':') && !c.blankAt 1)

/-- Read the next token, with the tokens that come before it for its sake. -/
def lexNext (l : Lexer) : Except Refusal Lexer := do
  let l ← (passSpace (l.cursor.rest.length + 1) l).dropStale
  let l := l.closeBlocks l.cursor.mark.column
  let c := l.cursor
  match c.peek? with
  | none => l.lexEnd
  | some x =>
    if c.mark.column = 0 && x = '%' then l.lexDirective
    else if c.startsWithMarker '-' then l.lexMarker .documentStart
    else if c.startsWithMarker '.' then l.lexMarker .documentEnd
    else if x = '[' then l.lexOpen .openBracket
    else if x = '{' then l.lexOpen .openBrace
    else if x = ']' then l.lexClose .closeBracket
    else if x = '}' then l.lexClose .closeBrace
    else if x = ',' then l.lexComma
    else if x = '-' && c.blankAt 1 then l.lexBlockMark .dash .sequenceBlock .entryNotAllowed
    else if x = '?' && (l.inFlow || c.blankAt 1) then
      l.lexBlockMark .key .mappingBlock .keyNotAllowed
    else if x = ':' && (l.inFlow || c.blankAt 1) then l.lexValue
    else if x = '*' then l.lexName .alias .alias
    else if x = '&' then l.lexName .anchor .anchor
    else if x = '!' then l.lexTag
    else if x = '|' && !l.inFlow then l.lexBlock true
    else if x = '>' && !l.inFlow then l.lexBlock false
    else if x = '\'' then l.lexQuoted true
    else if x = '"' then l.lexQuoted false
    else if l.startsPlain x then l.lexPlain
    else refuse .nextToken c.mark .noTokenStart c

/-! ### The queue -/

/-- Whether the first token of the queue can still become the first of a key. -/
def isOpen (l : Lexer) : Bool :=
  l.queue.isEmpty || l.candidates.any fun candidate => candidate.any (·.number = l.taken)

/-- Read until the first token is settled. -/
def settle : Nat → Lexer → Except Refusal Lexer
  | 0, l => .ok l
  | fuel + 1, l => do
    let l ← if l.queue.isEmpty then pure l else l.dropStale
    if l.isOpen then
      let l ← l.lexNext
      settle fuel l
    else .ok l

/-- The first token, which stays in the queue. -/
def peek (l : Lexer) : Except Refusal (Lexer × Option Token) :=
  (settle (l.cursor.rest.length + 2) l).map fun l => (l, l.queue.head?)

/-- Take the first token from the queue. -/
def drop (l : Lexer) : Lexer := { l with queue := l.queue.drop 1, taken := l.taken + 1 }

end Lexer

end LookupBench.Yaml
