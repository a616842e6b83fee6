import LookupBench.Source.Strings

/-!
# Brackets

Collections, comprehensions, arguments and subscripts. A star in front of an element takes the
whole expression behind it, except where a comprehension follows: there it belongs to an operand of
the expression.
-/

namespace LookupBench.Source

variable {src : List Char}

/-- Behind an element of a collection. -/
def inBrackets : Follow := { closer := true }

/-- Behind the first element, which a comprehension may run over. -/
def inBracketsFirst : Follow := { closer := true, words := ["for", "async"] }

/-! ### Comprehensions -/

/-- Behind what a comprehension runs over, and behind its conditions. -/
def inClause : Follow := { closer := true, words := ["for", "if", "async"], ternary := false }

def inTargets : Follow := { words := ["in"] }

/-- Whether a comprehension goes on. -/
def atClause (e : Expect) : Parse src Bool := do
  let w ← peekWord e
  return w = "for" || w = "async"

/-- Targets with commas between them, up to `in`. -/
def Level.targets (l : Level src) : Nat → Expect → Parse src (List (Tree src))
  | 0, _ => failure
  | fuel + 1, e => do
    let t ← l.pattern e inTargets
    if ← accept {} [','] then
      if ← startsOperand { quote := true } inTargets.words then
        return t.tree :: (← l.targets fuel { quote := true })
      else pure [t.tree]
    else pure [t.tree]

/-- What a comprehension runs over: expressions with commas between them, and maybe one behind. -/
def Level.iterated (l : Level src) : Nat → Expect → Parse src (List (Tree src))
  | 0, _ => failure
  | fuel + 1, e => do
    let t ← l.expression e { inClause with iterated := true }
    let e := inClause.behind true
    if ← accept (inClause.behind false) [','] then
      if ← startsOperand e inClause.words then
        return t.tree :: (← l.iterated fuel e)
      else pure [t.tree]
    else pure [t.tree]

def Level.clauses (l : Level src) : Nat → Parse src (List (Tree src))
  | 0 => failure
  | fuel + 1 => do
    let e := inClause.behind false
    if ← acceptWord e "if" then
      let t ← l.expression { quote := true } inClause
      return t.tree :: (← l.clauses fuel)
    else if ← atClause e then
      if ← acceptWord e "async" then expectWord {} "for" else pass e 3
      let targets ← l.targets l.fuel { quote := true }
      expectWord {} "in"
      let parts ← l.iterated l.fuel { quote := true }
      return targets ++ parts ++ (← l.clauses fuel)
    else pure []

/-! ### Collections -/

/-- A starred expression; a starred name or place is also a target. -/
def Level.splat (l : Level src) (f : Follow) (e : Expect) : Parse src (Term src) := do
  expect e ['*']
  let t ← l.expression { quote := true } f
  pure ⟨.group [t.tree], if t.form = .name ∨ t.form = .place then .target else .value⟩

/-- An element of a collection, and whether it may be the body of a comprehension. -/
def Level.element (l : Level src) (f : Follow) (e : Expect) : Parse src (Term src × Bool) := do
  if ← acceptWord e "yield" then
    return (.value [← l.yieldRest inBrackets], false)
  else if ← peekMark e ['*'] then
    let start ← here
    let t ← l.splat f e
    if !f.words.isEmpty && (← atClause (f.behind false)) then
      set start
      return (← l.expression e f, true)
    else pure (t, false)
  else return (← l.expression e f, true)

/-- The elements behind a comma, up to the closing bracket, which is passed. -/
def Level.moreElements (l : Level src) (close : Char) : Nat → Parse src (List (Term src))
  | 0 => failure
  | fuel + 1 => do
    let e := inBrackets.behind true
    if ← accept e [close] then pure []
    else
      let (t, _) ← l.element inBrackets e
      if ← accept (inBrackets.behind false) [','] then
        return t :: (← l.moreElements close fuel)
      else
        expect (inBrackets.behind false) [close]
        pure [t]

/-- Elements, the first of which is read already, up to the closing bracket. -/
def Level.elementsFrom (l : Level src) (close : Char) (first : Term src) (body : Bool) :
    Parse src (Term src) := do
  let e := inBrackets.behind false
  if body && (← atClause e) then
    let clauses ← l.clauses l.fuel
    expect e [close]
    pure (.value (first.tree :: clauses))
  else
    let rest ← do
      if ← accept e [','] then l.moreElements close l.fuel
      else
        expect e [close]
        pure []
    let all := first :: rest
    pure ⟨.group (all.map (·.tree)), if all.all Term.isTarget then .target else .value⟩

/-- What stands between parentheses or square brackets. -/
def Level.collection (l : Level src) (close : Char) : Parse src (Term src) := do
  let e := inBrackets.behind true
  if ← accept e [close] then pure ⟨.group [], .target⟩
  else
    let (t, body) ← l.element inBracketsFirst e
    l.elementsFrom close t body

/-- Entries behind a comma, up to the closing brace, which is passed. -/
def Level.entries (l : Level src) : Nat → Parse src (List (Tree src))
  | 0 => failure
  | fuel + 1 => do
    let e := inBrackets.behind true
    if ← accept e ['}'] then pure []
    else
      let t ← do
        if ← accept e ['*', '*'] then
          pure [(← l.expression { quote := true } inBrackets).tree]
        else
          let key ← l.expression e {}
          expect {} [':']
          pure [key.tree, (← l.expression { quote := true } inBrackets).tree]
      if ← accept (inBrackets.behind false) [','] then return t ++ (← l.entries fuel)
      else
        expect (inBrackets.behind false) ['}']
        pure t

/-- What follows an entry of a dictionary. -/
def Level.entriesFrom (l : Level src) (first : List (Tree src)) : Parse src (Term src) := do
  let e := inBrackets.behind false
  if ← accept e [','] then return .value (first ++ (← l.entries l.fuel))
  else
    expect e ['}']
    pure (.value first)

/-- An entry whose key is read already, and what follows it. -/
def Level.entryFrom (l : Level src) (key : Tree src) : Parse src (Term src) := do
  expect (inBrackets.behind false) [':']
  let value ← l.expression { quote := true } inBracketsFirst
  if ← atClause (inBrackets.behind false) then
    let clauses ← l.clauses l.fuel
    expect (inBrackets.behind false) ['}']
    pure (.value (key :: value.tree :: clauses))
  else l.entriesFrom [key, value.tree]

/-- What stands between braces: a dictionary or a set. -/
def Level.braces (l : Level src) : Parse src (Term src) := do
  let e := inBrackets.behind true
  if ← accept e ['}'] then pure (.value [])
  else if ← accept e [','] then
    expect { closer := true } ['}']
    pure (.value [])
  else if ← accept e ['*', '*'] then
    let t ← l.expression { quote := true } inBrackets
    l.entriesFrom [t.tree]
  else
    let start ← here
    let starred ← peekMark e ['*']
    let (t, body) ← l.element inBracketsFirst e
    if ← peekMark (inBrackets.behind false) [':'] then
      if starred then
        set start
        let key ← l.expression e inBracketsFirst
        l.entryFrom key.tree
      else if body then l.entryFrom t.tree
      else failure
    else return { ← l.elementsFrom '}' t body with form := .value }

/-! ### Arguments -/

/-- Whether the argument at a place has a name. -/
def namesArgument (e : Expect) : Parse src Bool := do
  let start ← here
  let w ← peekWord e
  if w.isEmpty || ["not", "lambda", "None", "True", "False"].contains w then pure false
  else
    pass e w.length
    let mark ← peekText (inBrackets.behind false)
    set start
    match mark with
    | '=' :: '=' :: _ => pure false
    | '=' :: _ => pure true
    | _ => pure false

/-- An argument, and whether it may be the body of a comprehension. -/
def Level.argument (l : Level src) (f : Follow) (e : Expect) : Parse src (Tree src × Bool) := do
  if ← accept e ['*', '*'] then
    return (.group [(← l.expression { quote := true } inBrackets).tree], false)
  else if ← namesArgument e then
    let n ← name e .name
    expect (inBrackets.behind false) ['=']
    let value ← l.expression { quote := true } inBrackets
    pure (.node .keywordArgument .plain [n, value.tree], false)
  else if (← peekWord e) = "yield" then
    return ((← l.expression e f).tree, true)
  else
    let (t, body) ← l.element f e
    pure (t.tree, body)

/-- The arguments behind a comma, up to the closing parenthesis, which is passed. -/
def Level.moreArguments (l : Level src) : Nat → Parse src (List (Tree src))
  | 0 => failure
  | fuel + 1 => do
    let e := inBrackets.behind true
    if ← accept e [')'] then pure []
    else
      let (t, _) ← l.argument inBrackets e
      if ← accept (inBrackets.behind false) [','] then return t :: (← l.moreArguments fuel)
      else
        expect (inBrackets.behind false) [')']
        pure [t]

/-- Arguments whose opening parenthesis is passed. Only those of a call may be a comprehension. -/
def Level.arguments (l : Level src) (call : Bool) : Parse src (List (Tree src)) := do
  let e := inBrackets.behind true
  if ← accept e [')'] then pure []
  else if ← accept e [','] then
    expect { closer := true } [')']
    pure []
  else
    let (t, body) ← l.argument (if call then inBracketsFirst else inBrackets) e
    if call && body && (← atClause (inBrackets.behind false)) then
      let clauses ← l.clauses l.fuel
      expect (inBrackets.behind false) [')']
      pure [.group (t :: clauses)]
    else if ← accept (inBrackets.behind false) [','] then
      return t :: (← l.moreArguments l.fuel)
    else
      expect (inBrackets.behind false) [')']
      pure [t]

/-! ### Subscripts -/

/-- A part of a slice, which may be missing. -/
def Level.slicePart (l : Level src) (e : Expect) : Parse src (List (Tree src)) := do
  if ← startsOperand e [] then return [(← l.expression e inBrackets).tree]
  else pure []

/-- An expression or a slice. -/
def Level.subscript (l : Level src) (e : Expect) : Parse src (List (Tree src)) := do
  let behind := inBrackets.behind true
  let low ← l.slicePart e
  if ← accept (if low.isEmpty then e else inBrackets.behind false) [':'] then
    let high ← l.slicePart behind
    let step ← do if ← accept behind [':'] then l.slicePart behind else pure []
    pure [.group (low ++ high ++ step)]
  else if low.isEmpty then failure
  else pure low

/-- Subscripts whose opening bracket is passed, up to the closing one, which is passed too. -/
def Level.subscripts (l : Level src) : Nat → Expect → Parse src (List (Tree src))
  | 0, _ => failure
  | fuel + 1, e => do
    let t ← l.subscript e
    let behind := inBrackets.behind true
    if ← accept behind [','] then
      if ← accept behind [']'] then pure t
      else return t ++ (← l.subscripts fuel behind)
    else
      expect behind [']']
      pure t

end LookupBench.Source
