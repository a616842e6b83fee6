import LookupBench.Number.Parse
import LookupBench.Text.Blank

/-!
# Arguments of programs

A grammar says which options a program takes, and which commands with options of their own. An
option is named in full behind two dashes, or by a letter behind one; letters can share a dash. A
value stands in the argument behind its option, or in the same argument behind an equals sign.
Behind a bare double dash nothing is an option.

A value is looked at when the next option turns up, or at the end. So an argument that is not known
at all counts before a bad value right in front of it.
-/

namespace LookupBench.Arguments

/-- What a value looks like. -/
inductive Form where
  | text
  /-- Any text but the empty one. -/
  | path
  | natural
  | integer
  | number
  | choice (names : List String)
  deriving DecidableEq, Repr

/-- What an option is for. -/
inductive Use where
  | flag
  | single (form : Form)
  /-- May be given again and again, and holds several values with the delimiter between them. -/
  | repeated (form : Form) (delimiter : Option Char)
  | help
  | version
  deriving DecidableEq, Repr

structure Parameter where
  name : String
  letter : Option Char := none
  use : Use
  deriving DecidableEq, Repr

/-- A command takes options and at most one plain argument. -/
structure Command where
  parameters : List Parameter
  operand : Option Parameter := none
  deriving Repr

structure Grammar where
  main : Command
  commands : List (String × Command) := []
  deriving Repr

/-- Why arguments are not taken. Asking for help or for the version is among the reasons. -/
inductive Fault where
  | unknownArgument
  | invalidSubcommand
  | invalidValue
  | valueValidation
  | argumentConflict
  | tooManyValues
  | help
  | version
  deriving DecidableEq, Repr

/-- The values that options were given, by name. -/
abbrev Values := List (String × List String)

def Values.isGiven (name : String) (given : Values) : Bool := given.any fun v => v.1 = name

def Values.all (name : String) (given : Values) : List String :=
  (given.filter fun v => v.1 = name).flatMap (·.2)

def Values.first? (name : String) (given : Values) : Option String := (given.all name).head?

namespace Form

def check (value : String) (form : Form) : Except Fault Unit :=
  let ifSome (found : Bool) : Except Fault Unit :=
    if found then .ok () else .error .valueValidation
  match form with
  | text => .ok ()
  | path => if value.isEmpty then .error .invalidValue else .ok ()
  | natural => ifSome (parseNat64? value.toList).isSome
  | integer => ifSome (parseInt64? value.toList).isSome
  | number => ifSome (parseBinary64? value.toList).isSome
  | choice names => if names.contains value then .ok () else .error .invalidValue

end Form

/-- The pieces between delimiters. -/
def splitAt (delimiter : Char) : List Char → List (List Char)
  | [] => [[]]
  | c :: rest =>
    if c = delimiter then [] :: splitAt delimiter rest
    else match splitAt delimiter rest with
      | [] => [[c]]
      | piece :: more => (c :: piece) :: more

def splitValue (delimiter : Option Char) (value : String) : List String :=
  match delimiter with
  | none => [value]
  | some d => (splitAt d value.toList).map String.ofList

/-- How far arguments have been read. -/
structure Reading where
  given : Values := []
  /-- An option, and its value if that has come. -/
  pending : Option (Parameter × Option String) := none
  operandSeen : Bool := false

namespace Reading

/-- Whether the next argument is the value of an option. -/
def isWaiting (r : Reading) : Bool :=
  match r.pending with
  | some (_, none) => true
  | _ => false

/-- Note what an option was given. -/
def note (p : Parameter) (value : Option String) (r : Reading) : Except Fault Reading :=
  let add (values : List String) : Reading := { r with given := r.given ++ [(p.name, values)] }
  match p.use, value with
  | .flag, _ => if r.given.isGiven p.name then .error .argumentConflict else .ok (add [])
  | .single form, some v =>
    if r.given.isGiven p.name then .error .argumentConflict
    else (form.check v).map fun _ => add [v]
  | .repeated form delimiter, some v =>
    let values := splitValue delimiter v
    (values.forM form.check).map fun _ => add values
  | .single _, none => .error .invalidValue
  | .repeated .., none => .error .invalidValue
  | .help, _ => .error .help
  | .version, _ => .error .version

/-- Look at the value of the option before. -/
def settle (r : Reading) : Except Fault Reading :=
  match r.pending with
  | none => .ok r
  | some (p, value) => { r with pending := none }.note p value

def takesValue (p : Parameter) : Bool :=
  match p.use with
  | .single _ | .repeated .. => true
  | _ => false

/-- An option turned up, with a value in the same argument or without. -/
def option (p : Parameter) (value : Option String) (r : Reading) : Except Fault Reading :=
  if takesValue p then do
    let r ← r.settle
    match value with
    | some v => r.note p (some v)
    | none => pure { r with pending := some (p, none) }
  else if value.isSome then .error .tooManyValues
  else do (← r.settle).note p none

/-- Options by their letters, with no dash. -/
def letters (c : Command) : List Char → Reading → Except Fault Reading
  | [], r => .ok r
  | l :: rest, r =>
    match c.parameters.find? fun p => p.letter = some l with
    | none => .error .unknownArgument
    | some p =>
      if takesValue p then
        match rest with
        | [] => r.option p none
        | '=' :: value => r.option p (some (String.ofList value))
        | value => r.option p (some (String.ofList value))
      else do letters c rest (← r.option p none)

def long (c : Command) (name : String) (value : Option String) (r : Reading) :
    Except Fault Reading :=
  match c.parameters.find? fun p => p.name = name with
  | none => .error .unknownArgument
  | some p => r.option p value

/-- An argument that is no option. Where commands are known, anything else was meant for one. -/
def plain (c : Command) (commands : List String) (trailing : Bool) (arg : String) (r : Reading) :
    Except Fault Reading :=
  match c.operand, r.operandSeen with
  | some p, false => do
    let r ← r.settle
    pure { r with pending := some (p, some arg), operandSeen := true }
  | _, _ =>
    if commands.isEmpty || (trailing && commands.contains arg) then .error .unknownArgument
    else .error .invalidSubcommand

end Reading

inductive Shape where
  | dashes
  | long (name : String) (value : Option String)
  | letters (letters : List Char)
  | plain

def shapeOf (arg : String) : Shape :=
  match arg.toList with
  | ['-', '-'] => .dashes
  | '-' :: '-' :: rest =>
    match splitOnce '=' rest with
    | some (name, value) => .long (String.ofList name) (some (String.ofList value))
    | none => .long (String.ofList rest) none
  | '-' :: c :: rest => .letters (c :: rest)
  | _ => .plain

/-- Read arguments up to the name of a command, if there is one: what was read, and the command
with the arguments behind it. -/
def scan (c : Command) (commands : List String) :
    Bool → List String → Reading → Except Fault (Reading × Option (String × List String))
  | _, [], r => .ok (r, none)
  | true, arg :: rest, r => do scan c commands true rest (← r.plain c commands true arg)
  | false, arg :: rest, r =>
    if !r.isWaiting && commands.contains arg then .ok (r, some (arg, rest))
    else match shapeOf arg with
      | .dashes => scan c commands true rest r
      | .long name value => do scan c commands false rest (← r.long c name value)
      | .letters ls => do scan c commands false rest (← r.letters c ls)
      | .plain =>
        match r.pending with
        | some (p, none) => scan c commands false rest { r with pending := some (p, some arg) }
        | _ => do scan c commands false rest (← r.plain c commands false arg)

/-- What arguments say. -/
structure Given where
  main : Values
  command : Option (String × Values) := none

namespace Grammar

/-- The command that explains the others. -/
def helpName : String := "help"

def names (g : Grammar) : List String :=
  if g.commands.isEmpty then [] else g.commands.map (·.1) ++ [helpName]

/-- Commands have no commands of their own to explain. -/
def explain (g : Grammar) (args : List String) : Fault :=
  match args with
  | [] => .help
  | [name] => if g.names.contains name then .help else .invalidSubcommand
  | _ => .invalidSubcommand

/-- Read the arguments of a program. Those of a command are looked at before the value of an option
in front of it. -/
def read (g : Grammar) (args : List String) : Except Fault Given := do
  let (outer, rest) ← scan g.main g.names false args {}
  match rest with
  | none => return { main := (← outer.settle).given }
  | some (name, rest) =>
    match g.commands.find? fun c => c.1 = name with
    | none => .error (g.explain rest)
    | some (_, command) =>
      let (inner, _) ← scan command [] false rest {}
      let inner ← inner.settle
      let outer ← outer.settle
      return { main := outer.given, command := some (name, inner.given) }

end Grammar

end LookupBench.Arguments
