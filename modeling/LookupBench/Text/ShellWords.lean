/-!
# Shell words

A command line in words. Blanks separate words, single quotes keep everything, double quotes keep
everything but a backslash in front of a mark that would mean something, and a backslash keeps the
character behind it. A backslash in front of a line feed drops both. A number sign where a word
would start leads a comment, up to the end of the line. What is kept is never split.
-/

namespace LookupBench.ShellWords

inductive Mode where
  /-- Between two words. -/
  | between
  | comment
  | bare
  | single
  | double
  deriving DecidableEq, Repr

def isSeparator (c : Char) : Bool := c = ' ' || c = '\t' || c = '\n'

/-- What a backslash and the character behind it leave of themselves in double quotes. -/
def kept (c : Char) : List Char :=
  if c = '\n' then []
  else if c = '$' || c = '`' || c = '"' || c = '\\' then [c]
  else ['\\', c]

/-- The words from here on; `word` is what has been read of the current one. -/
def split (mode : Mode) (word : List Char) : List Char → Option (List (List Char))
  | [] =>
    match mode with
    | .between | .comment => some []
    | .bare => some [word]
    | .single | .double => none
  | c :: rest =>
    match mode with
    | .comment => split (if c = '\n' then .between else .comment) [] rest
    | .single => if c = '\'' then split .bare word rest else split .single (word ++ [c]) rest
    | .double =>
      if c = '"' then split .bare word rest
      else if c = '\\' then
        match rest with
        | [] => none
        | d :: rest => split .double (word ++ kept d) rest
      else split .double (word ++ [c]) rest
    | .between | .bare =>
      if isSeparator c then
        if mode = .bare then (split .between [] rest).map (word :: ·) else split .between [] rest
      else if c = '#' && mode = .between then split .comment [] rest
      else if c = '\'' then split .single word rest
      else if c = '"' then split .double word rest
      else if c = '\\' then
        match rest with
        | [] => none
        | d :: rest => split .bare (if d = '\n' then word else word ++ [d]) rest
      else split .bare (word ++ [c]) rest

end LookupBench.ShellWords

namespace LookupBench

/-- The words of a command line. There are none when a quote is not closed. -/
def shellWords? (s : String) : Option (List String) :=
  (ShellWords.split .between [] s.toList).map (·.map String.ofList)

end LookupBench
