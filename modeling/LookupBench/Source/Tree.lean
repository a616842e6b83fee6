import LookupBench.Source.NameChar

/-!
# Syntax trees

A tree keeps what occurrences depend on: the identifiers, as places in the source, and the kinds
of constructs that decide whether an identifier is a reference. All other constructs are plain
groups. An identifier has no text of its own; it is the name that stands at its place. So a tree is
a tree of some source, and each identifier in it is a place where that source has a name.
-/

namespace LookupBench.Source

variable {src : List Char}

/-- A place in a source where a name stands. -/
structure Name (src : List Char) where
  start : Nat
  stands : nameAt (src.drop start) ≠ []
  deriving DecidableEq, Repr

def Name.chars (n : Name src) : List Char := nameAt (src.drop n.start)

def Name.text (n : Name src) : String := String.ofList n.chars

/-- The part that a tree plays in the construct around it. -/
inductive Role where
  | plain
  | name
  | alias
  | object
  | attribute
  | function
  deriving DecidableEq, Repr

inductive Kind where
  | group
  | attribute
  | call
  | functionDefinition
  | classDefinition
  | keywordArgument
  | defaultParameter
  | typedDefaultParameter
  | typedParameter
  | parameters
  | lambdaParameters
  | listSplatPattern
  | dictionarySplatPattern
  | dottedName
  | aliasedImport
  | importStatement
  | importFromStatement
  | relativeImport
  | globalStatement
  | nonlocalStatement
  deriving DecidableEq, Repr

inductive Tree (src : List Char) where
  | identifier (role : Role) (name : Name src)
  | node (kind : Kind) (role : Role) (children : List (Tree src))
  deriving Repr

namespace Tree

instance : Inhabited (Tree src) := ⟨.node .group .plain []⟩

def role : Tree src → Role
  | identifier role _ => role
  | node _ role _ => role

def children : Tree src → List (Tree src)
  | identifier .. => []
  | node _ _ children => children

def kind? : Tree src → Option Kind
  | identifier .. => none
  | node kind _ _ => some kind

def withRole (role : Role) : Tree src → Tree src
  | identifier _ name => identifier role name
  | node kind _ children => node kind role children

def group (children : List (Tree src)) : Tree src := node .group .plain children

/-- The first part with a role. -/
def part? (role : Role) (t : Tree src) : Option (Tree src) :=
  t.children.find? fun c => c.role = role

mutual

/-- All trees within a tree, each before its parts, and the parts in order. -/
def preorder (t : Tree src) : List (Tree src) :=
  match t with
  | identifier role name => [identifier role name]
  | node kind role children => node kind role children :: preorderAll children

def preorderAll : List (Tree src) → List (Tree src)
  | [] => []
  | t :: rest => preorder t ++ preorderAll rest

end

end Tree

end LookupBench.Source
