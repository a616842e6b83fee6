import LookupBench.Source.Tree

/-!
# Walking a tree

A spot is a tree together with where it stands: the trees to its right, and those it is part of.
A walk goes from spot to spot: down to the first part, else right, else up until there is something
to the right. So it meets every tree once, before its parts.
-/

namespace LookupBench.Source

variable {src : List Char}

/-- A tree in its place. `above` holds the trees around it, the innermost first, each with the
trees to its right. -/
structure Spot (src : List Char) where
  focus : Tree src
  right : List (Tree src)
  above : List (Tree src × List (Tree src))
  deriving Repr

namespace Spot

def root (t : Tree src) : Spot src := ⟨t, [], []⟩

def parent? (s : Spot src) : Option (Tree src) := s.above.head?.map (·.1)

def grandparent? (s : Spot src) : Option (Tree src) := (s.above[1]?).map (·.1)

def down? (s : Spot src) : Option (Spot src) :=
  match s.focus.children with
  | [] => none
  | t :: rest => some ⟨t, rest, (s.focus, s.right) :: s.above⟩

/-- The next tree to the right of a place, or of those around it. -/
def onward? (right : List (Tree src)) : List (Tree src × List (Tree src)) → Option (Spot src)
  | [] =>
    match right with
    | [] => none
    | t :: rest => some ⟨t, rest, []⟩
  | (up, upRight) :: above =>
    match right with
    | t :: rest => some ⟨t, rest, (up, upRight) :: above⟩
    | [] => onward? upRight above

def next? (s : Spot src) : Option (Spot src) := s.down? <|> onward? s.right s.above

end Spot

/-- The spots of a walk, at most so many. -/
def walkFrom : Nat → Spot src → List (Spot src)
  | 0, _ => []
  | n + 1, s =>
    s :: match s.next? with
      | some s => walkFrom n s
      | none => []

mutual

/-- The number of trees within a tree, itself among them. -/
def Tree.count : Tree src → Nat
  | .identifier .. => 1
  | .node _ _ children => countAll children + 1

def Tree.countAll : List (Tree src) → Nat
  | [] => 0
  | t :: rest => t.count + countAll rest

end

/-- All spots of a tree in the order of a walk. -/
def walk (t : Tree src) : List (Spot src) := walkFrom t.count (.root t)

end LookupBench.Source
