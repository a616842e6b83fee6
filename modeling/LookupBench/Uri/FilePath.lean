import LookupBench.Text.WordChar

/-!
# Paths of file URIs

The path grows segment by segment. Single dots vanish and double dots take the last segment back,
also when they are written as escapes. A first segment that looks like a drive letter is kept, with
a colon behind the letter, and takes the place of a host.
-/

namespace LookupBench.Uri

/-- A drive letter: a letter and a colon or bar. -/
def isDrive (segment : List Char) : Bool :=
  match segment with
  | [c, d] => isAsciiLetter c && (d = ':' || d = '|')
  | _ => false

def isNormalDrive (segment : List Char) : Bool :=
  match segment with
  | [c, ':'] => isAsciiLetter c
  | _ => false

def isSeparator (c : Char) : Bool := c = '/' || c = '\\'

def startsWithDrive (cs : List Char) : Bool :=
  match cs with
  | [c, d] => isDrive [c, d]
  | c :: d :: e :: _ => isDrive [c, d] && (isSeparator e || e = '?' || e = '#')
  | _ => false

def singleDots : List (List Char) := [".", "%2e", "%2E"].map String.toList

def doubleDots : List (List Char) :=
  ["..", "%2e%2e", "%2e%2E", "%2E%2e", "%2E%2E", "%2e.", "%2E.", ".%2e", ".%2E"].map String.toList

def endsInSlash (path : List Char) : Bool := path.isEmpty || path.getLast? = some '/'

/-- The path up to its last slash and what follows that slash. -/
def splitLast (path : List Char) : List Char × List Char :=
  let tail := (path.reverse.takeWhile (· ≠ '/')).reverse
  (path.take (path.length - tail.length), tail)

/-- Whether the slash at the end may be dropped: another one stands before it, and no drive letter
lies between. -/
def slashIsLoose (path : List Char) : Bool :=
  let (before, tail) := splitLast path.dropLast
  !before.isEmpty && !startsWithDrive (tail ++ ['/'])

/-- Take the last segment back, down to the slash in front of it. -/
def shorten (path : List Char) : List Char :=
  let (before, tail) := splitLast path
  if isNormalDrive tail then path else before

def stepUp (path : List Char) (slash : Bool) : List Char :=
  let path := if endsInSlash path && slashIsLoose path then path.dropLast else path
  let path := shorten path
  if slash && !endsInSlash path then path ++ ['/'] else path

/-- A path under construction, and whether a host stands before it. -/
structure Draft where
  path : List Char
  host : Bool

/-- Add a segment; `slash` tells whether a separator ends it. -/
def Draft.add (draft : Draft) (segment : List Char) (slash : Bool) : Draft :=
  let ending := if slash then ['/'] else []
  if doubleDots.contains segment then { draft with path := stepUp draft.path slash }
  else if singleDots.contains segment then
    { draft with path := if endsInSlash draft.path then draft.path else draft.path ++ ['/'] }
  else if draft.path.length = 1 && isDrive segment then
    ⟨draft.path ++ segment.take 1 ++ ':' :: ending, false⟩
  else { draft with path := draft.path ++ segment ++ ending }

/-- Add everything up to a query or fragment. `segment` holds what the current one has so far, the
last character first. -/
def Draft.addAll (draft : Draft) (segment : List Char) : List Char → Draft
  | [] => draft.add segment.reverse false
  | c :: rest =>
    if isSeparator c then (draft.add segment.reverse true).addAll [] rest
    else if c = '?' || c = '#' then draft.add segment.reverse false
    else draft.addAll (c :: segment) rest

/-- One slash in front, however many there were. -/
def Draft.finish (draft : Draft) : Draft :=
  { draft with path := '/' :: draft.path.dropWhile (· = '/') }

end LookupBench.Uri
