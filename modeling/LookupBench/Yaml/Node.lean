import LookupBench.Yaml.Lexer

/-!
# Nodes

A text is a tree of scalars, sequences and mappings, in which an alias stands for a part that
has been named. When the text turns out to be no YAML, the tree is cut there: what stands in front
of the cut can still be looked at, and each collection that was open ends in the cut.
-/

namespace LookupBench.Yaml

/-- What is said about a node in front of it. -/
structure Label where
  mark : Mark
  /-- The number under which aliases find it. -/
  anchor : Option Nat := none
  tag : Option Bytes := none
  deriving Repr

inductive Node where
  | scalar (label : Label) (style : Style) (text : String)
  | sequence (label : Label) (items : List Node)
  | mapping (label : Label) (entries : List (Node × Node))
  | alias (mark : Mark) (anchor : Nat)
  | cut
  deriving Inhabited

namespace Node

def isCut : Node → Bool
  | cut => true
  | _ => false

def empty (mark : Mark) : Node := .scalar { mark := mark } .plain ""

mutual

/-- How many scalars, aliases and ends of collections a node has. -/
def size : Node → Nat
  | .scalar .. | .alias .. => 1
  | .sequence _ items => 1 + sizeOfItems items
  | .mapping _ entries => 1 + sizeOfEntries entries
  | .cut => 0

/-- The end of a collection counts unless it is cut off. -/
def sizeOfItems : List Node → Nat
  | [] => 1
  | item :: rest => if item.isCut then 0 else item.size + sizeOfItems rest

def sizeOfEntries : List (Node × Node) → Nat
  | [] => 1
  | (key, value) :: rest =>
    if key.isCut || value.isCut then key.size + value.size
    else key.size + value.size + sizeOfEntries rest

end

mutual

/-- The nodes that aliases can find, in the order in which they start. -/
def anchored : Node → List (Nat × Node)
  | .scalar label style text => label.anchor.toList.map fun n => (n, .scalar label style text)
  | .sequence label items =>
    (label.anchor.toList.map fun n => (n, .sequence label items)) ++ anchoredItems items
  | .mapping label entries =>
    (label.anchor.toList.map fun n => (n, .mapping label entries)) ++ anchoredEntries entries
  | .alias .. | .cut => []

def anchoredItems : List Node → List (Nat × Node)
  | [] => []
  | item :: rest => item.anchored ++ anchoredItems rest

def anchoredEntries : List (Node × Node) → List (Nat × Node)
  | [] => []
  | (key, value) :: rest => key.anchored ++ value.anchored ++ anchoredEntries rest

end

end Node

end LookupBench.Yaml
