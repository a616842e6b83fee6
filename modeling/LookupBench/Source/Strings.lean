import LookupBench.Source.Parser

/-!
# Lists of expressions and strings

What `yield` takes, what stands between the braces of a string, and strings one behind the other.
-/

namespace LookupBench.Source

variable {src : List Char}

/-- The size of an assignment that starts with an operator; zero if none stands here. -/
def augmentedSize : List Char → Nat
  | '/' :: '/' :: '=' :: _ | '*' :: '*' :: '=' :: _ | '<' :: '<' :: '=' :: _
  | '>' :: '>' :: '=' :: _ => 3
  | c :: '=' :: _ => if "+-*/%@|&^".toList.contains c then 2 else 0
  | _ => 0

def startsOperandMark (cs : List Char) : Bool :=
  match cs with
  | [] => false
  | '.' :: '.' :: '.' :: _ => true
  | c :: _ =>
    numberSize cs ≠ 0 || ("([\x7b-+~*".toList.contains c && augmentedSize cs = 0)

/-- Whether an operand may start at the next token. `words` are the words that mean something else
here. -/
def startsOperand (e : Expect) (words : List String) : Parse src Bool := do
  match ← peek e with
  | .quote .. => pure true
  | .token at_ =>
    let w := nameAt at_.rest
    if w.isEmpty then pure (startsOperandMark at_.rest)
    else pure (!words.contains (String.ofList w))
  | _ => pure false

/-! ### Strings -/

def Level.formatSpec (l : Level src) (interpolation : Parse src (List (Tree src))) :
    Nat → Parse src (List (Tree src))
  | 0 => failure
  | fuel + 1 => do
    let size := formatTextSize (← here).rest
    if size ≠ 0 then
      modify (Cursor.skip size)
      l.formatSpec interpolation fuel
    else if ← accept { closer := true } ['{'] then
      let inner ← interpolation
      return inner ++ (← l.formatSpec interpolation fuel)
    else pure []

/-- Expressions with commas between them; a comma may end them. -/
def Level.expressionList (l : Level src) (f : Follow) :
    Nat → Expect → Parse src (List (Term src) × Bool)
  | 0, _ => failure
  | fuel + 1, e => do
    let t ← l.expression e f
    if ← accept (f.behind false) [','] then
      if ← startsOperand (f.behind true) f.words then
        let (rest, _) ← l.expressionList f fuel (f.behind true)
        pure (t :: rest, true)
      else pure ([t], true)
    else pure ([t], false)

/-- The expressions behind `yield`, whose word is passed. -/
def Level.yieldRest (l : Level src) (f : Follow) : Parse src (Tree src) := do
  if ← acceptWord (f.behind true) "from" then
    let t ← l.expression { quote := true } f
    pure (.group [t.tree])
  else if ← startsOperand (f.behind true) f.words then
    let (ts, _) ← l.expressionList f l.fuel (f.behind true)
    pure (.group (ts.map (·.tree)))
  else pure (.group [])

/-- An interpolation whose opening brace is passed. -/
def Level.interpolation (l : Level src) : Nat → Parse src (List (Tree src))
  | 0 => failure
  | fuel + 1 => do
    let f : Follow := { closer := true }
    let body ← do
      if ← acceptWord { quote := true } "yield" then
        pure [← l.yieldRest f]
      else
        let (ts, _) ← l.expressionList f l.fuel { quote := true }
        pure (ts.map (·.tree))
    let e := f.behind false
    let _ ← accept e ['=']
    match ← peekText e with
    | '!' :: c :: _ => if 'a' ≤ c ∧ c ≤ 'z' then pass e 2 else failure
    | _ => pure ()
    let spec ← do
      if ← accept e [':'] then l.formatSpec (l.interpolation fuel) l.fuel else pure []
    expect e ['}']
    pure (body ++ spec)

/-- The pieces of a string whose opening quote is passed: what its interpolations hold. -/
def Level.pieces (l : Level src) (q : Quote) : Nat → Parse src (List (Tree src))
  | 0 => failure
  | fuel + 1 => do
    match piece q (← here) with
    | .text after =>
      set after
      l.pieces q fuel
    | .close after =>
      set after
      pure []
    | .brace after =>
      set after
      let inner ← l.interpolation l.fuel
      return inner ++ (← l.pieces q fuel)
    | .broken => failure

/-- Strings one behind the other, the first of which has begun. -/
def Level.strings (l : Level src) (f : Follow) :
    Nat → Quote → Cursor src → Parse src (List (Tree src))
  | 0, _, _ => failure
  | fuel + 1, q, after => do
    set after
    let inner ← l.pieces q l.fuel
    match ← peek (f.behind true) with
    | .quote q after => return inner ++ (← l.strings f fuel q after)
    | _ => pure inner

end LookupBench.Source
