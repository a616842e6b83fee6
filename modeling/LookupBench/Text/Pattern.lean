import LookupBench.Text.WordChar

/-!
# Patterns

A pattern is a sequence of parts, matched from left to right. A part that takes many characters
takes all it can, and gives them back one by one until the parts behind it match what follows.
-/

namespace LookupBench

inductive PatternPart where
  /-- An end of a word: a place with a word character on one side only. -/
  | boundary
  | one (accepts : Char → Bool)
  | many (accepts : Char → Bool)

/-- The size of a match at the start of a text, if there is one; the character in front of the text
is given with it. -/
abbrev Matcher := Option Char → List Char → Option Nat

def isWordAt (c : Option Char) : Bool := (c.map isWordChar).getD false

/-- As many characters as there are, less those that what follows needs. -/
def takeMany (accepts : Char → Bool) (next : Matcher) : Matcher
  | before, [] => next before []
  | before, c :: rest =>
    if accepts c then
      ((takeMany accepts next (some c) rest).map (· + 1)).orElse fun _ => next before (c :: rest)
    else next before (c :: rest)

/-- A part in front of what follows. -/
def PatternPart.matcher (next : Matcher) : PatternPart → Matcher
  | .boundary, before, cs => if isWordAt before != isWordAt cs.head? then next before cs else none
  | .one accepts, _, cs =>
    match cs with
    | [] => none
    | c :: rest => if accepts c then (next (some c) rest).map (· + 1) else none
  | .many accepts, before, cs => takeMany accepts next before cs

def matchSize? (pattern : List PatternPart) : Matcher :=
  pattern.foldr (fun part next => part.matcher next) fun _ _ => some 0

end LookupBench
