import LookupBench.Source.Strings

/-!
# Patterns of cases

Dotted names are values to compare with. Names that a pattern binds behind a star or `as`, and the
names of keywords, count as references; the blank name `_` is no name.
-/

namespace LookupBench.Source

variable {src : List Char}

/-- A name with dots in it. -/
def dottedTail (f : Follow) : Nat → Parse src (List (Tree src))
  | 0 => failure
  | fuel + 1 => do
    if ← accept (f.behind false) ['.'] then
      let n ← name {} .plain
      return n :: (← dottedTail f fuel)
    else pure []

def number (e : Expect) : Parse src Unit := do
  let n := numberSize (← peekText e)
  if n = 0 then failure else pass e n

/-- A number, and maybe another that is added. -/
def caseNumber (e : Expect) (f : Follow) : Parse src Unit := do
  number e
  let behind := f.behind false
  if ← accept behind ['+'] then number {}
  else if ← accept behind ['-'] then number {}

/-- Patterns in brackets and what stands between them, one level of nesting further down. -/
structure CaseLevel (src : List Char) where
  level : Level src
  pattern : Expect → Follow → Parse src (List (Tree src))
  /-- A pattern without a name for what it matched. -/
  simple : Expect → Follow → Parse src (List (Tree src))

def CaseLevel.list (l : CaseLevel src) (close : Char) : Nat → Parse src (List (Tree src))
  | 0 => failure
  | fuel + 1 => do
    let f : Follow := { closer := true }
    let e := f.behind true
    if ← accept e [close] then pure []
    else
      let t ← l.pattern e f
      if ← accept (f.behind false) [','] then return t ++ (← l.list close fuel)
      else
        expect (f.behind false) [close]
        pure t

/-- A starred name. -/
def caseSplat (e : Expect) : Parse src (List (Tree src)) := do
  if !(← accept e ['*', '*']) then expect e ['*']
  let w ← peekWord {}
  let t ← name {} .plain
  if w = "_" then pure [] else pure [t]

/-- Whether an entry of a dictionary ends here. -/
def atEntryEnd (e : Expect) : Parse src Bool := do
  return (← peekMark e [',']) || (← peekMark e ['}'])

def CaseLevel.entries (l : CaseLevel src) : Nat → Parse src (List (Tree src))
  | 0 => failure
  | fuel + 1 => do
    let f : Follow := { closer := true }
    let e := f.behind true
    if ← accept e ['}'] then pure []
    else
      let start ← here
      let starred ← peekMark e ['*']
      let splat ← if starred then caseSplat e else pure []
      let t ← do
        if starred && (← atEntryEnd (f.behind false)) then pure splat
        else
          set start
          let key ← l.simple e f
          expect (f.behind false) [':']
          pure (key ++ (← l.pattern { quote := true } f))
      if ← accept (f.behind false) [','] then return t ++ (← l.entries fuel)
      else
        expect (f.behind false) ['}']
        pure t

/-- An alternative of a pattern. -/
def CaseLevel.alternative (l : CaseLevel src) (e : Expect) (f : Follow) :
    Parse src (List (Tree src)) := do
  match ← peek e with
  | .quote q after => l.level.strings f l.level.fuel q after
  | .token at_ =>
    match at_.rest with
    | '(' :: _ =>
      set (at_.skip 1)
      l.list ')' l.level.fuel
    | '[' :: _ =>
      set (at_.skip 1)
      l.list ']' l.level.fuel
    | '{' :: _ =>
      set (at_.skip 1)
      l.entries l.level.fuel
    | '*' :: _ => caseSplat e
    | '-' :: _ =>
      set (at_.skip 1)
      caseNumber {} f
      pure []
    | cs =>
      if numberSize cs ≠ 0 then
        caseNumber e f
        pure []
      else
        let w := String.ofList (nameAt cs)
        let t ← name e .plain
        if ["None", "True", "False", "_"].contains w then pure []
        else
          let names ← dottedTail f l.level.fuel
          let dotted : Tree src := .node .dottedName .plain (t :: names)
          if ← accept (f.behind false) ['('] then
            return dotted :: (← l.list ')' l.level.fuel)
          else pure [dotted]
  | _ => failure

def CaseLevel.alternatives (l : CaseLevel src) (f : Follow) :
    Nat → Expect → Parse src (List (Tree src))
  | 0, _ => failure
  | fuel + 1, e => do
    let t ← l.alternative e f
    if ← accept (f.behind false) ['|'] then
      return t ++ (← l.alternatives f fuel { quote := true })
    else pure t

/-- Names for what a pattern matched. -/
def caseNames (f : Follow) : Nat → Parse src (List (Tree src))
  | 0 => failure
  | fuel + 1 => do
    if ← acceptWord (f.behind false) "as" then
      let t ← name {} .plain
      return t :: (← caseNames f fuel)
    else pure []

/-- A pattern, maybe with the name of a keyword in front. -/
def CaseLevel.patternHere (l : CaseLevel src) (e : Expect) (f : Follow) :
    Parse src (List (Tree src)) := do
  let start ← here
  let w ← peekWord e
  let key ← do
    if w.isEmpty || ["None", "True", "False", "_"].contains w then pure []
    else
      let t ← name e .plain
      if ← accept (f.behind false) ['='] then pure [t]
      else
        set start
        pure []
  let t ← l.alternatives f l.level.fuel (if key.isEmpty then e else { quote := true })
  return key ++ t ++ (← caseNames f l.level.fuel)

def caseLevel (level : Level src) : Nat → CaseLevel src
  | 0 => { level, pattern := fun _ _ => failure, simple := fun _ _ => failure }
  | n + 1 =>
    { level
      pattern := fun e f c => (caseLevel level n).patternHere e f c
      simple := fun e f c => (caseLevel level n).alternatives f level.fuel e c }

/-- A pattern nested at most as deep as loops may go on. -/
def Level.casePattern (l : Level src) (e : Expect) (f : Follow) :
    Parse src (List (Tree src)) :=
  (caseLevel l l.fuel).pattern e f

end LookupBench.Source
