import LookupBench.Text.Utf8

/-!
# The end of an error stream

Of what a server writes to its error stream the last 200 lines are kept. A line ends in a line feed;
carriage returns at its end do not count. What follows the last line feed is a line once the stream
is over, unless it is empty.
-/

namespace LookupBench

structure ErrorTail where
  lines : List String := []
  /-- The octets since the last line feed, the last one first. -/
  partialLine : Bytes := []

namespace ErrorTail

def limit : Nat := 200

/-- The text of a line without its line feed. -/
def lineText (line : Bytes) : String :=
  String.ofList ((Utf8.decodeLossy line).reverse.dropWhile (· = '\r')).reverse

/-- Add a line; the oldest one makes room for it. -/
def push (line : Bytes) (tail : ErrorTail) : ErrorTail :=
  let kept := if tail.lines.length = limit then tail.lines.drop 1 else tail.lines
  { tail with lines := kept ++ [lineText line] }

/-- The line at hand is complete. -/
def endLine (tail : ErrorTail) : ErrorTail :=
  { tail.push tail.partialLine.reverse with partialLine := [] }

def feed : Bytes → ErrorTail → ErrorTail
  | [], tail => tail
  | b :: rest, tail =>
    feed rest (if b = 10 then tail.endLine
      else { tail with partialLine := b :: tail.partialLine })

/-- The stream is over. -/
def finish (tail : ErrorTail) : ErrorTail :=
  if tail.partialLine.isEmpty then tail else tail.endLine

/-- The last lines, at most so many. -/
def text (count : Nat) (tail : ErrorTail) : String :=
  "\n".intercalate (tail.lines.drop (tail.lines.length - count))

end ErrorTail

end LookupBench
