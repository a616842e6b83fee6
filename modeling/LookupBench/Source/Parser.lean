import LookupBench.Source.Literal
import LookupBench.Source.Tree

/-!
# Parsing

Parsers move a cursor or fail. Words are keywords only where the grammar has a use for them, and
names elsewhere; so a parser says which words it looks for, and what else may follow a construct is
handed down to the expression that ends it.
-/

namespace LookupBench.Source

abbrev Parse (src : List Char) := StateT (Cursor src) Option

variable {src : List Char}

/-- What may follow an expression, as far as its end depends on it. -/
structure Follow where
  newline : Bool := false
  closer : Bool := false
  /-- Words that would end the expression. -/
  words : List String := []
  /-- Whether `if` goes on with a conditional expression. -/
  ternary : Bool := true
  /-- The expression is what a comprehension runs over. -/
  iterated : Bool := false

namespace Follow

/-- What layout expects behind an operand. -/
def behind (f : Follow) (quote : Bool) : Expect :=
  { newline := f.newline, closer := f.closer, quote := quote }

end Follow

/-- What an expression may be used for besides its value. -/
inductive Form where
  /-- A bare name. -/
  | name
  /-- An attribute or a subscript. -/
  | place
  /-- Another target of an assignment. -/
  | target
  | value
  deriving DecidableEq, Repr

structure Term (src : List Char) where
  tree : Tree src
  form : Form

def Term.isTarget (t : Term src) : Bool := t.form ≠ .value

def Term.value (trees : List (Tree src)) : Term src := ⟨.group trees, .value⟩

/-- The parsers that constructs use for what stands inside them, one level of nesting further
down, and a bound on the steps of a loop. -/
structure Level (src : List Char) where
  fuel : Nat
  expression : Expect → Follow → Parse src (Term src)
  /-- A name, a place, or a list of these in brackets. -/
  pattern : Expect → Follow → Parse src (Term src)
  /-- A type, which a constraint may follow if the flag is set. -/
  annotation : Expect → Follow → Bool → Parse src (Tree src)
  /-- The block behind a colon. -/
  suite : Parse src (Tree src)

/-- No nesting is left. -/
def Level.bottom : Level src where
  fuel := 0
  expression _ _ := failure
  pattern _ _ := failure
  annotation _ _ _ := failure
  suite := failure

def peek (e : Expect) : Parse src (Look src) := fun c => some (look e c, c)

def here : Parse src (Cursor src) := get

/-- The text at the next token; empty if something else comes. -/
def peekText (e : Expect) : Parse src (List Char) := do
  match ← peek e with
  | .token at_ => pure at_.rest
  | _ => pure []

/-- The name at the next token; empty if something else comes. -/
def peekWord (e : Expect) : Parse src String := do return String.ofList (nameAt (← peekText e))

def peekMark (e : Expect) (mark : List Char) : Parse src Bool := do
  return (← peekText e).take mark.length = mark

/-- Pass `n` characters of the next token. -/
def pass (e : Expect) (n : Nat) : Parse src Unit := do
  match ← peek e with
  | .token at_ => set (at_.skip n)
  | _ => failure

def accept (e : Expect) (mark : List Char) : Parse src Bool := do
  if ← peekMark e mark then
    pass e mark.length
    pure true
  else pure false

def expect (e : Expect) (mark : List Char) : Parse src Unit := do
  if !(← accept e mark) then failure

def acceptWord (e : Expect) (word : String) : Parse src Bool := do
  if (← peekWord e) = word then
    pass e word.length
    pure true
  else pure false

def expectWord (e : Expect) (word : String) : Parse src Unit := do
  if !(← acceptWord e word) then failure

/-- Any word, as an identifier. -/
def name (e : Expect) (role : Role) : Parse src (Tree src) := do
  match ← peek e with
  | .token at_ =>
    if h : nameAt at_.rest = [] then failure
    else
      set (at_.skip (nameAt at_.rest).length)
      pure (.identifier role ⟨at_.offset, by rwa [← at_.rest_eq]⟩)
  | _ => failure

end LookupBench.Source
