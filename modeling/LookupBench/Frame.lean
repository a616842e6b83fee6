import LookupBench.Json.Reader
import LookupBench.Json.Text
import LookupBench.Number.Parse
import LookupBench.Text.Blank

/-!
# Framed messages

A message travels as header lines, a blank line, and a body whose length in octets one of the
headers gives. `write` produces one header. `read` passes blocks that give no length and bodies
that are no JSON, and takes an input that stops inside a block for the end. It takes a buffer for a
body before it has seen an octet of it, and there may be none to be had.
-/

namespace LookupBench.Frame

open scoped Power

def write (message : Json) : Bytes :=
  let body := Utf8.encodeChars message.compact
  Utf8.encode "Content-Length: " ++ Utf8.encodeChars (Decimal.natDigits body.length)
    ++ [13, 10, 13, 10] ++ body

def writeAll (messages : List Json) : Bytes := messages.flatMap write

/-- The first line with its line feed, and what follows. -/
def splitLine : Bytes → Bytes × Bytes
  | [] => ([], [])
  | b :: rest =>
    if b = 10 then ([b], rest)
    else
      let (line, after) := splitLine rest
      (b :: line, after)

def lengthName : List Char := "content-length".toList

/-- What a line says about the length: nothing, a number, or something that is no number. -/
def lengthOf? (text : List Char) : Option (Option Nat) :=
  match splitOnce ':' text with
  | none => none
  | some (key, value) =>
    if (trim key).map lowerAscii = lengthName then some (parseNat64? (trim value)) else none

/-- The header lines of a block, up to the blank line behind them: the length that the last of
them gives, and the rest of the input. Blank lines in front are passed. -/
def header : Nat → Bool → Option Nat → Bytes → Option (Option Nat × Bytes)
  | 0, _, _, _ => none
  | fuel + 1, inside, length, input =>
    match input with
    | [] => none
    | _ :: _ =>
      let (line, rest) := splitLine input
      let text := trim (Utf8.decodeLossy line)
      if text.isEmpty then
        if inside then some (length, rest) else header fuel false length rest
      else header fuel true ((lengthOf? text).getD length) rest

/-- No buffer is as long as this, and so is no text of a message. -/
def capacity : Nat := 2 ^ (63 : Nat)

/-- Why there is no buffer for a body. -/
inductive Refusal where
  /-- No buffer can be so long. -/
  | oversized
  /-- There is no memory for a buffer of so many octets. -/
  | exhausted (length : Nat)
  deriving DecidableEq, Repr

/-- Without memory it is not the reader alone that ends. -/
def Refusal.endsProgram : Refusal → Bool
  | .oversized => false
  | .exhausted _ => true

/-- Whether there is no buffer for a body, on a machine with memory for bodies below `limit`. -/
def refusal? (limit length : Nat) : Option Refusal :=
  if capacity ≤ length then some .oversized
  else if limit ≤ length then some (.exhausted length)
  else none

/-- The outcome of reading one message. -/
inductive Outcome where
  | message (value : Json) (rest : Bytes)
  /-- The input is over, or stops inside a block. -/
  | finished
  /-- There is no buffer for the next body; what follows its header is left. -/
  | refused (refusal : Refusal) (rest : Bytes)

def readWith (limit : Nat) : Nat → Bytes → Outcome
  | 0, _ => .finished
  | fuel + 1, input =>
    match header (input.length + 1) false none input with
    | none => .finished
    | some (none, rest) => readWith limit fuel rest
    | some (some length, rest) =>
      match refusal? limit length with
      | some refusal => .refused refusal rest
      | none =>
        if rest.length < length then .finished
        else match Json.ofBytes? (rest.take length) with
          | some value => .message value (rest.drop length)
          | none => readWith limit fuel (rest.drop length)

/-- The next message. Each block takes at least one octet, so as many steps as there are octets
suffice. -/
def read (input : Bytes) (limit : Nat := capacity) : Outcome :=
  readWith limit (input.length + 1) input

/-- How a stream of messages ends. -/
inductive Ending where
  | finished
  | refused (refusal : Refusal)
  deriving DecidableEq, Repr

def readAllWith (limit total : Nat) : Nat → Bytes → List (Json × Nat) × Ending
  | 0, _ => ([], .finished)
  | fuel + 1, input =>
    match read input limit with
    | .finished => ([], .finished)
    | .refused refusal _ => ([], .refused refusal)
    | .message value rest =>
      let (more, ending) := readAllWith limit total fuel rest
      ((value, total - rest.length) :: more, ending)

/-- All messages, each with the offset of the octet behind it. -/
def readAll (input : Bytes) (limit : Nat := capacity) : List (Json × Nat) × Ending :=
  readAllWith limit input.length (input.length + 1) input

def Refusal.message : Refusal → String
  | .oversized => "capacity overflow"
  | .exhausted length => "memory allocation of " ++ Decimal.natText length ++ " bytes failed"

def Ending.message : Ending → Option String
  | .finished => none
  | .refused refusal => some refusal.message

end LookupBench.Frame
