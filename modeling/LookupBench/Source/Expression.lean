import LookupBench.Source.Brackets

/-!
# Expressions

Operators are read without regard to their binding strength, which no occurrence depends on; what
matters is the chain of calls, attributes and subscripts behind an operand, and which operands a
place admits. After an operator between operands only a primary may come, in which `not` and
`lambda` are names.
-/

namespace LookupBench.Source

variable {src : List Char}

/-- Where an operand stands. -/
inductive Place where
  | expression
  | primary
  deriving DecidableEq

/-! ### Operands -/

/-- Words that go on with an expression. -/
def operatorWords : List String := ["and", "or", "not", "in", "is", "if", "as"]

/-- Words that are values and never names. -/
def isValueWord (w : String) : Bool := w = "None" || w = "True" || w = "False"

/-- An operand without signs, stars and trailers. -/
def Level.atom (l : Level src) (e : Expect) (f : Follow) : Parse src (Term src) := do
  match ← peek e with
  | .quote q after => return .value (← l.strings f l.fuel q after)
  | .token at_ =>
    match at_.rest with
    | '(' :: _ =>
      set (at_.skip 1)
      l.collection ')'
    | '[' :: _ =>
      set (at_.skip 1)
      l.collection ']'
    | '{' :: _ =>
      set (at_.skip 1)
      l.braces
    | '.' :: '.' :: '.' :: _ =>
      set (at_.skip 3)
      pure (.value [])
    | cs =>
      let n := numberSize cs
      if n ≠ 0 then
        set (at_.skip n)
        pure (.value [])
      else
        let t ← name e .plain
        if isValueWord (String.ofList (nameAt cs)) then pure (.value []) else pure ⟨t, .name⟩
  | _ => failure

/-- What may stand behind an operand and bind to it. -/
inductive Trailer (src : List Char) where
  | attribute (name : Tree src)
  | arguments (parts : List (Tree src))
  | subscript (parts : List (Tree src))

def Trailer.isPlace : Trailer src → Bool
  | .arguments _ => false
  | _ => true

def Trailer.bind (t : Term src) : Trailer src → Term src
  | .attribute name => ⟨.node .attribute .plain [t.tree.withRole .object, name], .place⟩
  | .arguments parts =>
    ⟨.node .call .plain [t.tree.withRole .function, .group parts], .value⟩
  | .subscript parts => ⟨.group (t.tree :: parts), .place⟩

def Level.trailers (l : Level src) (f : Follow) : Nat → Parse src (List (Trailer src))
  | 0 => failure
  | fuel + 1 => do
    let e := f.behind false
    if ← accept e ['.'] then
      let n ← name {} .attribute
      return .attribute n :: (← l.trailers f fuel)
    else if ← accept e ['('] then
      let parts ← l.arguments true
      return .arguments parts :: (← l.trailers f fuel)
    else if ← accept e ['['] then
      let parts ← l.subscripts l.fuel { quote := true }
      return .subscript parts :: (← l.trailers f fuel)
    else pure []

/-- A starred operand. The star takes the whole chain if that ends in a place. Otherwise it takes a
bare name, or what reaches up to the first place; the trailers behind bind to what it made. -/
def starChain (base : Term src) (trailers : List (Trailer src)) : Option (Term src) :=
  let starred (t : Term src) : Term src := ⟨.group [t.tree], .target⟩
  if (trailers.getLast?.map Trailer.isPlace).getD (base.form = .name) then
    some (starred (trailers.foldl Trailer.bind base))
  else if base.form = .name then some (trailers.foldl Trailer.bind (starred base))
  else
    let inner := trailers.takeWhile fun t => !t.isPlace
    match trailers.drop inner.length with
    | [] => none
    | place :: rest =>
      some (rest.foldl Trailer.bind (starred ((inner ++ [place]).foldl Trailer.bind base)))

/-- Whether `await`, which is passed, has an operand. -/
def awaits (f : Follow) : Parse src Bool := do
  if ← peekMark (f.behind true) ['*', '*'] then pure false
  else startsOperand (f.behind true) (operatorWords ++ f.words)

/-- A starred operand whose star is passed. A second star takes a bare name. -/
def Level.starred (l : Level src) (f : Follow) : Parse src (Term src) := do
  let start ← here
  if ← acceptWord { quote := true } "await" then
    if ← awaits f then failure
  set start
  let base ← do
    if ← accept { quote := true } ['*'] then
      pure (.value [(← l.atom { quote := true } f).tree])
    else l.atom { quote := true } f
  match starChain base (← l.trailers f l.fuel) with
  | some t => pure t
  | none => failure

/-! ### Parameters -/

/-- A name or a place behind a star. -/
def Level.starTarget (l : Level src) (e : Expect) (f : Follow) : Parse src (Tree src) := do
  let t ← l.pattern e f
  if t.form = .name ∨ t.form = .place then pure t.tree else failure

/-- Patterns in parentheses, the first of which is passed. -/
def Level.tuplePattern (l : Level src) : Nat → Parse src (List (Tree src))
  | 0 => failure
  | fuel + 1 => do
    let e := inBrackets.behind true
    if ← accept e [')'] then pure []
    else
      let t ← l.pattern e inBrackets
      if ← accept (inBrackets.behind false) [','] then
        return t.tree :: (← l.tuplePattern fuel)
      else
        expect (inBrackets.behind false) [')']
        pure [t.tree]

/-- A parameter in front of its type and default. -/
inductive Parameter (src : List Char) where
  | name (t : Tree src)
  | tuple (t : Tree src)
  | starred (t : Tree src)
  | separator

def Level.parameterHead (l : Level src) (e : Expect) (f : Follow) : Parse src (Parameter src) := do
  let starred : Expect := { f.behind true with newline := false }
  if ← accept e ['*', '*'] then
    let t ← l.starTarget { quote := true } f
    pure (.starred (.node .dictionarySplatPattern .plain [t]))
  else if ← accept e ['*'] then
    if ← startsOperand starred [] then
      let t ← l.starTarget starred f
      pure (.starred (.node .listSplatPattern .plain [t]))
    else pure .separator
  else if ← accept e ['/'] then pure .separator
  else if ← accept e ['('] then return .tuple (.group (← l.tuplePattern l.fuel))
  else return .name (← name e .plain)

/-- A parameter. Those of a `lambda` have no types. -/
def Level.parameter (l : Level src) (typed : Bool) (e : Expect) (f : Follow) :
    Parse src (Tree src) := do
  let behind := f.behind false
  let type? : Parse src (Option (Tree src)) := do
    if !typed then pure none
    else if ← accept behind [':'] then
      return some (← l.annotation { quote := true } f true)
    else pure none
  let value? : Parse src (Option (Tree src)) := do
    if ← accept behind ['='] then return some (← l.expression { quote := true } f).tree
    else pure none
  match ← l.parameterHead e f with
  | .separator => pure (.group [])
  | .starred t =>
    match ← type? with
    | some type => pure (.node .typedParameter .plain [t, type])
    | none => pure t
  | .tuple t =>
    match ← value? with
    | some value => pure (.node .defaultParameter .plain [t.withRole .name, value])
    | none => pure t
  | .name t =>
    match ← type?, ← value? with
    | some type, some value =>
      pure (.node .typedDefaultParameter .plain [t.withRole .name, type, value])
    | some type, none => pure (.node .typedParameter .plain [t, type])
    | none, some value => pure (.node .defaultParameter .plain [t.withRole .name, value])
    | none, none => pure t

/-- Parameters up to the mark behind them, which is passed. -/
def Level.parameterList (l : Level src) (typed : Bool) (close : Char) (f : Follow) :
    Nat → Parse src (List (Tree src))
  | 0 => failure
  | fuel + 1 => do
    let e := f.behind false
    if ← accept e [close] then pure []
    else
      let t ← l.parameter typed e f
      if ← accept e [','] then return t :: (← l.parameterList typed close f fuel)
      else
        expect e [close]
        pure [t]

/-- A `lambda` whose word is passed. In what a comprehension runs over, the body of an outermost
`lambda` leaves `if` to the comprehension. -/
def Level.lambda (l : Level src) (f : Follow) : Parse src (Term src) := do
  let parameters ← l.parameterList false ':' {} l.fuel
  let f := if f.iterated then f else { f with ternary := true }
  let body ← l.expression { quote := true } f
  pure (.value [.node .lambdaParameters .plain parameters, body.tree])

/-! ### Operators -/

/-- An operand. A `not` in front of it, where that is no name, is passed before. -/
def Level.operand (l : Level src) (f : Follow) : Nat → Place → Expect → Parse src (Term src)
  | 0, _, _ => failure
  | fuel + 1, place, e => do
    match ← peekText e with
    | [] => chain e
    | c :: rest =>
      if c = '-' || c = '+' || c = '~' then
        pass e 1
        return .value [(← l.operand f fuel .primary { quote := true }).tree]
      else if c = '*' then
        pass e 1
        l.starred f
      else
        let w := String.ofList (nameAt (c :: rest))
        if w = "lambda" && place = .expression then
          pass e w.length
          l.lambda f
        else if w = "await" then
          let start ← here
          pass e w.length
          if ← awaits f then
            return .value [(← l.operand f fuel .primary (f.behind true)).tree]
          else
            set start
            chain e
        else chain e
where
  chain (e : Expect) : Parse src (Term src) := do
    let t ← l.atom e f
    return (← l.trailers f l.fuel).foldl Trailer.bind t

/-- The size of the operator at the start of a text. One that an assignment takes along is none. -/
def operatorSize : List Char → Nat
  | '<' :: '<' :: c :: _ | '>' :: '>' :: c :: _ | '/' :: '/' :: c :: _ | '*' :: '*' :: c :: _ =>
    if c = '=' then 0 else 2
  | '<' :: '=' :: _ | '>' :: '=' :: _ | '=' :: '=' :: _ | '!' :: '=' :: _ | '<' :: '>' :: _ => 2
  | '<' :: _ | '>' :: _ => 1
  | c :: rest =>
    if "+-*/%@|&^".toList.contains c then if rest.head? = some '=' then 0 else 1 else 0
  | [] => 0

/-- What comes behind an operand: the place of the next operand, if there is one. -/
def Level.operator (l : Level src) (f : Follow) (named : Bool) :
    Parse src (Option (Place × List (Tree src))) := do
  let e := f.behind false
  let cs ← peekText e
  if named && cs.take 2 = [':', '='] then
    pass e 2
    pure (some (.expression, []))
  else
    let n := operatorSize cs
    if n ≠ 0 then
      pass e n
      pure (some (.primary, []))
    else
      let w := String.ofList (nameAt cs)
      if f.words.contains w || !operatorWords.contains w || (w = "if" && !f.ternary) then
        pure none
      else
        pass e w.length
        if w = "not" then
          expectWord {} "in"
          pure (some (.primary, []))
        else if w = "is" then
          let _ ← acceptWord { quote := true } "not"
          pure (some (.primary, []))
        else if w = "in" then pure (some (.primary, []))
        else if w = "if" then
          let condition ← l.expression { quote := true } { words := ["else"] }
          expectWord {} "else"
          pure (some (.expression, [condition.tree]))
        else pure (some (.expression, []))

/-- Operands with operators between them. `done` holds the parts in front, if there are any. -/
def Level.operations (l : Level src) (f : Follow) :
    Nat → Option (List (Tree src)) → Place → Expect → Parse src (Term src)
  | 0, _, _, _ => failure
  | fuel + 1, done, place, e => do
    let negated ← if place = .expression then acceptWord e "not" else pure false
    if negated then
      l.operations { f with iterated := false } fuel (some (done.getD [])) .expression
        { quote := true }
    else
      let t ← l.operand f l.fuel place e
      match ← l.operator f (place = .expression && t.form = .name) with
      | some (place, parts) =>
        l.operations { f with iterated := false } fuel (some (done.getD [] ++ t.tree :: parts))
          place { quote := true }
      | none =>
        match done with
        | some before => pure (.value (before ++ [t.tree]))
        | none => pure t

def Level.expressionHere (l : Level src) (e : Expect) (f : Follow) : Parse src (Term src) :=
  l.operations f l.fuel none .expression e

/-- A target of a loop, of a comprehension or in parentheses. -/
def Level.patternHere (l : Level src) (e : Expect) (f : Follow) : Parse src (Term src) := do
  let t ← l.operand f l.fuel .primary e
  if t.isTarget then pure t else failure

end LookupBench.Source
