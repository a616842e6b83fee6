import LookupBench.Source.Expression

/-!
# Types

A type is an expression, a starred name, or a name with types in brackets; a bar, a dot and a
constraint go on with it.
-/

namespace LookupBench.Source

variable {src : List Char}

/-- Words that do not take types in brackets. -/
def plainTypeWords : List String :=
  ["None", "True", "False", "not", "lambda", "await", "print", "exec", "async", "match"]

/-- Types in brackets, the opening one of which is passed. -/
def Level.typeArguments (l : Level src) : Nat → Expect → Parse src (List (Tree src))
  | 0, _ => failure
  | fuel + 1, e => do
    let t ← l.annotation e inBrackets true
    if ← accept (inBrackets.behind false) [','] then
      if ← accept (inBrackets.behind true) [']'] then pure [t]
      else return t :: (← l.typeArguments fuel (inBrackets.behind true))
    else
      expect (inBrackets.behind false) [']']
      pure [t]

/-- Whether a star and a name stand here and make a type of their own. -/
def startsSplat (e : Expect) (f : Follow) : Parse src Bool := do
  let start ← here
  let w ← do if ← accept e ['*'] then peekWord { quote := true } else pure ""
  if w.isEmpty || plainTypeWords.contains w then
    set start
    pure false
  else
    pass { quote := true } w.length
    let behind ← peekText (f.behind false)
    set start
    let next := String.ofList (nameAt behind)
    pure (match behind with
      | '[' :: _ | '(' :: _ => false
      | '|' :: _ => true
      | _ => operatorSize behind = 0 && !operatorWords.contains next)

def Level.typeHead (l : Level src) (e : Expect) (f : Follow) : Parse src (List (Tree src)) := do
  if ← accept e ['*', '*'] then return [← name {} .plain]
  else if ← startsSplat e f then
    expect e ['*']
    return [← name { quote := true } .plain]
  else
    let start ← here
    let w ← peekWord e
    if w.isEmpty || plainTypeWords.contains w then
      return [(← l.expression e f).tree]
    else
      let t ← name e .plain
      if ← accept (f.behind false) ['['] then
        return t :: (← l.typeArguments l.fuel { quote := true })
      else
        set start
        return [(← l.expression e f).tree]

def Level.typeTail (l : Level src) (f : Follow) (constrained : Bool) :
    Nat → Parse src (List (Tree src))
  | 0 => failure
  | fuel + 1 => do
    let e := f.behind false
    if ← accept e ['|'] then
      let t ← l.typeHead { quote := true } f
      return t ++ (← l.typeTail f constrained fuel)
    else if ← accept e ['.'] then
      let t ← name {} .plain
      return t :: (← l.typeTail f constrained fuel)
    else if !constrained then pure []
    else if ← accept e [':'] then
      let t ← l.typeHead { quote := true } f
      return t ++ (← l.typeTail f constrained fuel)
    else pure []

def Level.annotationHere (l : Level src) (e : Expect) (f : Follow) (constrained : Bool) :
    Parse src (Tree src) := do
  let head ← l.typeHead e f
  return .group (head ++ (← l.typeTail f constrained l.fuel))

/-- Parameters of a type, if there are any. -/
def Level.typeParameters (l : Level src) : Parse src (List (Tree src)) := do
  if ← accept {} ['['] then l.typeArguments l.fuel { quote := true } else pure []

end LookupBench.Source
