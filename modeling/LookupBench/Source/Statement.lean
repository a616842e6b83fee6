import LookupBench.Source.Annotation
import LookupBench.Source.CasePattern

/-!
# Statements

Words that begin a statement are keywords where one may begin. `print`, `exec`, `type` and `match`
are names too: a statement that starts with one of them is first read the one way and then the
other.
-/

namespace LookupBench.Source

variable {src : List Char}

/-- Behind an expression that may end a statement. -/
def atLineEnd : Follow := { newline := true }

/-- Where a statement starts. -/
def statementStart (nested : Bool) : Expect := { dedent := nested, quote := true }

/-! ### Imports -/

def dottedName (e : Expect) (f : Follow) (role : Role) (fuel : Nat) : Parse src (Tree src) := do
  let first ← name e .plain
  return .node .dottedName role (first :: (← dottedTail f fuel))

/-- An imported name, maybe with another name to bind. -/
def importClause (e : Expect) (f : Follow) (fuel : Nat) : Parse src (Tree src) := do
  let dotted ← dottedName e f .name fuel
  if ← acceptWord (f.behind false) "as" then
    return .node .aliasedImport .name [dotted, ← name {} .alias]
  else pure dotted

/-- Imported names; a comma may end them. -/
def importClauses (f : Follow) (loop : Nat) : Nat → Expect → Parse src (List (Tree src))
  | 0, _ => failure
  | fuel + 1, e => do
    let t ← importClause e f loop
    if ← accept (f.behind false) [','] then
      if (← peekWord (f.behind false)).isEmpty then pure [t]
      else return t :: (← importClauses f loop fuel (f.behind false))
    else pure [t]

def importedNames (loop : Nat) : Parse src (List (Tree src)) := do
  if ← accept {} ['('] then
    let ts ← importClauses inBrackets loop loop {}
    expect (inBrackets.behind false) [')']
    pure ts
  else importClauses atLineEnd loop loop {}

/-- The dots in front of a relative import. -/
def importDots : Nat → Parse src Bool
  | 0 => failure
  | fuel + 1 => do
    if ← accept {} ['.'] then
      let _ ← importDots fuel
      pure true
    else pure false

/-- An import behind `from`. What is imported from the future binds nothing. -/
def fromImport (loop : Nat) : Parse src (Tree src) := do
  if ← acceptWord {} "__future__" then
    expectWord {} "import"
    return .group (← importedNames loop)
  else
    let relative ← importDots loop
    let bare := relative && (← peekWord {}) = "import"
    let source ← do if bare then pure [] else pure [← dottedName {} {} .plain loop]
    expectWord {} "import"
    let source := if relative then [.node .relativeImport .plain source] else source
    if ← accept {} ['*'] then pure (.node .importFromStatement .plain source)
    else return .node .importFromStatement .plain (source ++ (← importedNames loop))

/-! ### Assignments -/

def trees (ts : List (Term src)) : List (Tree src) := ts.map (·.tree)

def startsAssignment (cs : List Char) : Bool :=
  augmentedSize cs ≠ 0 || cs.take 1 = [':'] || (cs.take 1 = ['='] && cs.take 2 ≠ ['=', '='])

/-- The first way to read on that succeeds. -/
def either {α : Type} (p q : Parse src α) : Parse src α := fun c => (p c).orElse fun _ => q c

/-- What layout expects behind targets. Those in brackets, and those with a comma, need not be the
end of a line, unless their value could be what is assigned. -/
def targetsEnd (value bracketed comma : Bool) : Expect :=
  { newline := if comma then value else !bracketed }

/-- Targets behind a comma, in which `not` and `lambda` are names; a comma may end them. -/
def Level.moreTargets (l : Level src) (value : Bool) : Nat → Parse src (List (Term src))
  | 0 => failure
  | fuel + 1 => do
    let e : Expect := { newline := value, quote := true }
    if ← startsOperand e [] then
      let t ← l.pattern e { newline := value }
      if ← accept { newline := value } [','] then return t :: (← l.moreTargets value fuel)
      else pure [t]
    else pure []

/-- Expressions with commas between them, or else targets, and what layout expects behind them. A
list of targets is a value only behind a mark of assignment. -/
def Level.expressionsOrTargets (l : Level src) (value : Bool) (e : Expect) :
    Parse src (List (Term src) × Expect) := do
  let cs ← peekText e
  let bracketed := cs.take 1 = ['('] || cs.take 1 = ['[']
  let expressions : Parse src (List (Term src) × Expect) := do
    let (ts, comma) ← l.expressionList atLineEnd l.fuel e
    if ts.all Term.isTarget then
      let behind := targetsEnd value bracketed comma
      if ← peekMark behind [','] then failure else pure (ts, behind)
    else if startsAssignment (← peekText (atLineEnd.behind false)) then failure
    else pure (ts, atLineEnd.behind false)
  either expressions do
    let t ← l.expression e atLineEnd
    expect (targetsEnd value bracketed false) [',']
    let more ← l.moreTargets value l.fuel
    let behind := targetsEnd value bracketed true
    if t.isTarget && (value || startsAssignment (← peekText behind)) then
      pure (t :: more, behind)
    else failure

/-- Expressions, or an assignment to them, or a `yield`. -/
def Level.assignment (l : Level src) : Nat → Bool → Expect → Parse src (List (Tree src))
  | 0, _, _ => failure
  | fuel + 1, value, e => do
    if ← acceptWord e "yield" then return [← l.yieldRest atLineEnd]
    else
      let (ts, behind) ← l.expressionsOrTargets value e
      let cs ← peekText behind
      if !startsAssignment cs then pure (trees ts)
      else if cs.take 1 = [':'] then
        pass behind 1
        let type ← l.annotation { quote := true } atLineEnd true
        if ← accept (atLineEnd.behind false) ['='] then
          return trees ts ++ type :: (← l.assignment fuel true { quote := true })
        else return trees ts ++ [type]
      else
        pass behind (max 1 (augmentedSize cs))
        return trees ts ++ (← l.assignment fuel true { quote := true })

/-! ### Simple statements -/

/-- What comes behind a simple statement: `true` at the end of the line, `false` in front of
another statement. -/
def statementEnd : Parse src Bool := do
  match ← peek { newline := true } with
  | .newline => pure true
  | _ =>
    expect { newline := true } [';']
    match ← peek { newline := true, quote := true } with
    | .newline => pure true
    | _ => pure false

/-- Expressions with commas between them and none behind. -/
def Level.commaSeparated (l : Level src) (f : Follow) :
    Nat → Expect → Parse src (List (Tree src))
  | 0, _ => failure
  | fuel + 1, e => do
    let t ← l.expression e f
    if ← accept (f.behind false) [','] then
      return t.tree :: (← l.commaSeparated f fuel { quote := true })
    else pure [t.tree]

/-- Expressions, if there are any; a comma may end them. -/
def Level.optionalExpressions (l : Level src) (f : Follow) : Parse src (List (Tree src)) := do
  if ← startsOperand (f.behind true) f.words then
    return trees (← l.expressionList f l.fuel (f.behind true)).1
  else pure []

/-- Names with commas between them. -/
def names : Nat → Parse src (List (Tree src))
  | 0 => failure
  | fuel + 1 => do
    let t ← name {} .plain
    if ← accept { newline := true } [','] then return t :: (← names fuel) else pure [t]

/-- What to print into a file, behind the arrow. -/
def Level.printRest (l : Level src) : Nat → Parse src (List (Tree src))
  | 0 => failure
  | fuel + 1 => do
    if ← accept { newline := true } [','] then
      if ← startsOperand { newline := true, quote := true } [] then
        let t ← l.expression { newline := true, quote := true } atLineEnd
        return t.tree :: (← l.printRest fuel)
      else pure []
    else pure []

def atArrow (e : Expect) : Parse src Bool := do
  let cs ← peekText e
  return cs.take 2 = ['>', '>'] && (cs.drop 2).head? ≠ some '='

/-- A simple statement and what comes behind it. -/
def Level.finished (p : Parse src (List (Tree src))) : Parse src (List (Tree src) × Bool) := do
  let ts ← p
  return (ts, ← statementEnd)

/-- Words that go on with a name, where an operand could start too. -/
def goesOn (w : String) : Bool := w ≠ "not" && operatorWords.contains w

def Level.printStatement (l : Level src) (e : Expect) : Parse src (List (Tree src) × Bool) := do
  let start ← here
  pass e 5
  let behind : Expect := { newline := true, quote := true }
  if ← atArrow behind then
    pass behind 2
    Level.finished do
      let t ← l.expression { quote := true } atLineEnd
      return t.tree :: (← l.printRest l.fuel)
  else
    set start
    either (Level.finished (l.assignment l.fuel false e)) do
      pass e 5
      if goesOn (← peekWord behind) then failure
      Level.finished do
        return trees (← l.expressionList atLineEnd l.fuel behind).1

def Level.execStatement (l : Level src) (e : Expect) : Parse src (List (Tree src) × Bool) :=
  either (Level.finished (l.assignment l.fuel false e)) do
    pass e 4
    Level.finished do
      let behind : Expect := { newline := true, quote := true }
      let code ← do
        match ← peek behind with
        | .quote q after =>
          set after
          l.pieces q l.fuel
        | _ =>
          if operatorWords.contains (← peekWord behind) then failure
          else pure [← name behind .plain]
      if ← acceptWord { newline := true } "in" then
        return code ++ (← l.commaSeparated atLineEnd l.fuel { quote := true })
      else pure code

def Level.typeStatement (l : Level src) (e : Expect) : Parse src (List (Tree src) × Bool) :=
  either (do
    pass e 4
    if goesOn (← peekWord { newline := true, quote := true }) then failure
    Level.finished do
      let left ← l.annotation { newline := true, quote := true } {} true
      expect {} ['=']
      return [left, ← l.annotation { quote := true } atLineEnd true])
    (Level.finished (l.assignment l.fuel false e))

def Level.raiseRest (l : Level src) : Parse src (List (Tree src)) := do
  let f : Follow := { newline := true, words := ["from"] }
  let raised ← l.optionalExpressions f
  if ← acceptWord (f.behind false) "from" then
    return raised ++ [(← l.expression { quote := true } atLineEnd).tree]
  else pure raised

/-- A simple statement and what comes behind it. -/
def Level.simple (l : Level src) (e : Expect) : Parse src (List (Tree src) × Bool) := do
  let w ← peekWord e
  let statement (p : Parse src (List (Tree src))) : Parse src (List (Tree src) × Bool) := do
    pass e w.length
    Level.finished p
  match w with
  | "import" => statement do
    return [.node .importStatement .plain (← importClauses atLineEnd l.fuel l.fuel {})]
  | "from" => statement do return [← fromImport l.fuel]
  | "assert" => statement (l.commaSeparated atLineEnd l.fuel { quote := true })
  | "return" => statement (l.optionalExpressions atLineEnd)
  | "del" => statement do
    return trees (← l.expressionList atLineEnd l.fuel { quote := true }).1
  | "raise" => statement l.raiseRest
  | "pass" | "break" | "continue" => statement (pure [])
  | "global" => statement do return [.node .globalStatement .plain (← names l.fuel)]
  | "nonlocal" => statement do return [.node .nonlocalStatement .plain (← names l.fuel)]
  | "print" => l.printStatement e
  | "exec" => l.execStatement e
  | "type" => l.typeStatement e
  | _ => Level.finished (l.assignment l.fuel false e)

/-- Simple statements up to the end of the line. -/
def Level.simples (l : Level src) : Nat → Expect → Parse src (List (Tree src))
  | 0, _ => failure
  | fuel + 1, e => do
    let (ts, ended) ← l.simple e
    if ended then pure ts
    else return ts ++ (← l.simples fuel { newline := true, quote := true })

/-! ### Compound statements -/

def Level.block (l : Level src) : Parse src (Tree src) := do
  expect {} [':']
  l.suite

def Level.conditionBlock (l : Level src) (e : Expect) : Parse src (List (Tree src)) := do
  let t ← l.expression e {}
  return [t.tree, ← l.block]

def Level.elseBlock (l : Level src) (nested : Bool) : Parse src (List (Tree src)) := do
  if ← acceptWord (statementStart nested) "else" then return [← l.block] else pure []

def Level.elifBlocks (l : Level src) (nested : Bool) : Nat → Parse src (List (Tree src))
  | 0 => failure
  | fuel + 1 => do
    if ← acceptWord (statementStart nested) "elif" then
      let t ← l.conditionBlock { quote := true }
      return t ++ (← l.elifBlocks nested fuel)
    else l.elseBlock nested

/-- A loop over expressions whose word is passed. -/
def Level.forRest (l : Level src) (nested : Bool) : Parse src (List (Tree src)) := do
  let targets ← l.targets l.fuel { quote := true }
  expectWord {} "in"
  let (ts, _) ← l.expressionList {} l.fuel { quote := true }
  let body ← l.block
  return targets ++ trees ts ++ body :: (← l.elseBlock nested)

def Level.withRest (l : Level src) : Parse src (List (Tree src)) := do
  let (ts, _) ← l.expressionList {} l.fuel { quote := true }
  return trees ts ++ [← l.block]

def Level.definitionRest (l : Level src) : Parse src (List (Tree src)) := do
  let n ← name {} .name
  let types ← l.typeParameters
  expect {} ['(']
  let parameters ← l.parameterList true ')' inBrackets l.fuel
  let head := n :: types ++ [.node .parameters .plain parameters]
  let body ← do
    if ← accept {} ['-', '>'] then
      either (do
        let type ← l.annotation { quote := true } {} false
        return [type, ← l.block]) do
        let type ← l.annotation { quote := true } {} true
        return [type, ← l.block]
    else pure [← l.block]
  pure [.node .functionDefinition .plain (head ++ body)]

def Level.classRest (l : Level src) : Parse src (List (Tree src)) := do
  let n ← name {} .name
  let types ← l.typeParameters
  let bases ← do if ← accept {} ['('] then l.arguments false else pure []
  return [.node .classDefinition .plain (n :: types ++ [.group bases, ← l.block])]

/-- Behind the block of a `try` or of one of its handlers. -/
def handlerStart (nested : Bool) : Expect := { statementStart nested with handler := true }

def atExceptGroup (e : Expect) : Parse src Bool := do
  return (← peekText e).take 7 = "except*".toList

def Level.finallyBlock (l : Level src) (e : Expect) : Parse src (List (Tree src)) := do
  if ← acceptWord e "finally" then return [← l.block] else pure []

def Level.tryEnd (l : Level src) (e : Expect) : Parse src (List (Tree src)) := do
  let other ← do if ← acceptWord e "else" then pure [← l.block] else pure []
  return other ++ (← l.finallyBlock e)

/-- Handlers of groups behind the first. -/
def Level.groupHandlers (l : Level src) (e : Expect) :
    Nat → Expect → Parse src (List (Tree src))
  | 0, _ => failure
  | fuel + 1, first => do
    if ← atExceptGroup first then
      pass first 7
      let t ← l.conditionBlock { quote := true }
      return t ++ (← l.groupHandlers e fuel e)
    else l.tryEnd e

/-- Handlers behind the first. -/
def Level.handlers (l : Level src) (e : Expect) : Nat → Expect → Parse src (List (Tree src))
  | 0, _ => failure
  | fuel + 1, first => do
    if ← acceptWord first "except" then
      let caught ← do
        if ← startsOperand { quote := true } [] then
          let t ← l.expression { quote := true } {}
          if ← accept {} [','] then
            pure [t.tree, (← l.expression { quote := true } {}).tree]
          else pure [t.tree]
        else pure []
      let body ← l.block
      return caught ++ body :: (← l.handlers e fuel e)
    else l.tryEnd e

def Level.tryRest (l : Level src) (nested : Bool) : Parse src (List (Tree src)) := do
  let body ← l.block
  let first : Expect := { handler := true }
  if ← atExceptGroup first then
    return body :: (← l.groupHandlers (statementStart nested) l.fuel first)
  else if (← peekWord first) = "except" then
    return body :: (← l.handlers (handlerStart nested) l.fuel first)
  else
    expectWord first "finally"
    return [body, ← l.block]

/-- A definition whose first word is passed up to `def`, `class` or `async`. -/
def Level.decorated (l : Level src) : Nat → Parse src (List (Tree src))
  | 0 => failure
  | fuel + 1 => do
    let t ← l.expression { quote := true } atLineEnd
    match ← peek { newline := true } with
    | .newline =>
      if ← accept {} ['@'] then return t.tree :: (← l.decorated fuel)
      else if ← acceptWord {} "class" then return t.tree :: (← l.classRest)
      else
        let _ ← acceptWord {} "async"
        expectWord {} "def"
        return t.tree :: (← l.definitionRest)
    | _ => failure

/-- The patterns of a case; a comma may end them. -/
def Level.casePatterns (l : Level src) : Nat → Expect → Parse src (List (Tree src))
  | 0, _ => failure
  | fuel + 1, e => do
    let t ← l.casePattern e {}
    if ← accept {} [','] then
      let w ← peekWord { quote := true }
      if w = "if" || (← peekMark { quote := true } [':']) then pure t
      else return t ++ (← l.casePatterns fuel { quote := true })
    else pure t

/-- The cases of a block, up to its end. -/
def Level.cases (l : Level src) : Nat → Parse src (List (Tree src))
  | 0 => failure
  | fuel + 1 => do
    let e : Expect := { dedent := true }
    match ← peek e with
    | .dedent =>
      modify fun c => { c with margins := c.margins.tail }
      pure []
    | _ =>
      expectWord e "case"
      let pattern ← l.casePatterns l.fuel { quote := true }
      let guard ← do
        if ← acceptWord {} "if" then pure [(← l.expression { quote := true } {}).tree]
        else pure []
      let body ← l.block
      return pattern ++ guard ++ body :: (← l.cases fuel)

def Level.matchRest (l : Level src) : Parse src (List (Tree src)) := do
  if goesOn (← peekWord { newline := true, quote := true }) then failure
  let (ts, _) ← l.expressionList {} l.fuel { quote := true }
  expect {} [':']
  match ← peek { newline := true, indent := true } with
  | .newline => pure (trees ts)
  | .indent width =>
    modify fun c => { c with margins := width :: c.margins }
    return trees ts ++ (← l.cases l.fuel)
  | _ => failure

/-- A statement of any sort. -/
def Level.statement (l : Level src) (nested : Bool) : Parse src (List (Tree src)) := do
  let e := statementStart nested
  let w ← peekWord e
  let behind (p : Parse src (List (Tree src))) : Parse src (List (Tree src)) := do
    pass e w.length
    p
  match w with
  | "if" => behind do
    let t ← l.conditionBlock { quote := true }
    return t ++ (← l.elifBlocks nested l.fuel)
  | "while" => behind do
    let t ← l.conditionBlock { quote := true }
    return t ++ (← l.elseBlock nested)
  | "for" => behind (l.forRest nested)
  | "try" => behind (l.tryRest nested)
  | "with" => behind l.withRest
  | "def" => behind l.definitionRest
  | "class" => behind l.classRest
  | "match" =>
    either (do
      let ts ← l.simples l.fuel e
      if ← peekMark e [':'] then failure else pure ts) (behind l.matchRest)
  | "async" => do
    let start ← here
    pass e w.length
    let behind : Expect := { newline := true }
    match ← peekWord behind with
    | "for" =>
      pass behind 3
      l.forRest nested
    | "with" =>
      pass behind 4
      l.withRest
    | "def" =>
      pass behind 3
      l.definitionRest
    | _ =>
      set start
      l.simples l.fuel e
  | _ =>
    if ← accept e ['@'] then l.decorated l.fuel
    else l.simples l.fuel e

/-- Statements up to the end of a block, or of the source. -/
def Level.statements (l : Level src) (nested : Bool) : Nat → Parse src (List (Tree src))
  | 0 => failure
  | fuel + 1 => do
    match ← peek (statementStart nested) with
    | .dedent =>
      if nested then
        modify fun c => { c with margins := c.margins.tail }
        pure []
      else failure
    | .finish => if nested then failure else pure []
    | _ => return (← l.statement nested) ++ (← l.statements nested fuel)

/-- What stands behind a colon: a block, simple statements on the same line, or nothing. -/
def Level.suiteHere (l : Level src) : Parse src (Tree src) := do
  let e : Expect := { newline := true, indent := true, quote := true }
  match ← peek e with
  | .indent width =>
    modify fun c => { c with margins := width :: c.margins }
    return .group (← l.statements true l.fuel)
  | .newline => pure (.group [])
  | _ => return .group (← l.simples l.fuel e)

/-! ### Sources -/

/-- The parsers for `n` levels of nesting. -/
def level (fuel : Nat) : Nat → Level src
  | 0 => .bottom
  | n + 1 =>
    { fuel
      expression := fun e f c => (level fuel n).expressionHere e f c
      pattern := fun e f c => (level fuel n).patternHere e f c
      annotation := fun e f constrained c => (level fuel n).annotationHere e f constrained c
      suite := fun c => (level fuel n).suiteHere c }

/-- More nesting than this needs more than the characters there are. -/
def nesting (size : Nat) : Nat := 4 * size + 4

/-- The syntax tree of a source; none if it has errors. -/
def parse? (src : List Char) : Option (Tree src) :=
  match (level (src.length + 2) (nesting src.length)).statements false (src.length + 2)
      (.start src) with
  | some (ts, _) => some (.group ts)
  | none => none

end LookupBench.Source
