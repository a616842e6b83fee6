import LookupBench.Client.Message
import LookupBench.Server.Effect

/-!
# The stub server

A server that answers lookups as it is told to: with a place, with nothing, with an error, or not at
all. It can take its time, end in the middle, and send what nobody asked for.
-/

namespace LookupBench

namespace Stub

inductive Mode where
  | location
  | link
  | empty
  | null
  | hang
  | error
  | mixed
  deriving DecidableEq, Repr

structure Options where
  mode : Mode := .location
  line : Int := 0
  character : Int := 0
  targetUri : Option String := none
  /-- Milliseconds before a lookup is answered. -/
  delay : Nat := 0
  askConfiguration : Bool := false
  crashOn : Option String := none
  /-- How many log messages follow the start of a session. -/
  flood : Nat := 0
  echoPosition : Bool := false
  deriving Repr

inductive Reply where
  | result (value : Json)
  | refusal (code : Int) (text : String)
  | silent
  /-- A coordinate that no signed word of 64 bits holds. -/
  | overflow

/-- A range of three characters, unless its end is out of reach. -/
def range? (line character : Int) : Option Json :=
  let at_ (character : Int) : Json := .object [("character", .int character), ("line", .int line)]
  if Location.highest < character + 3 then none
  else some (.object [("end", at_ (character + 3)), ("start", at_ character)])

/-- The place that a lookup is answered with. -/
def place (o : Options) (params : Json) : String × Int × Int :=
  let queried := ((params.get? "textDocument").bind (·.get? "uri")).bind Json.asString?
  let uri := o.targetUri.getD (queried.getD "file:///unknown.py")
  let coordinate (key : String) : Int :=
    (((params.get? "position").bind (·.get? key)).bind Json.asInt64?).getD 0
  if o.echoPosition then (uri, coordinate "line", coordinate "character")
  else (uri, o.line, o.character)

def located (uri : String) (range : Json) : Json := .object [("range", range), ("uri", .string uri)]

def lookup (o : Options) (params : Json) : Reply :=
  let (uri, line, character) := place o params
  let ofOption (value : Option Json) : Reply := (value.map Reply.result).getD .overflow
  match o.mode with
  | .location => ofOption ((range? line character).map (located uri))
  | .link => ofOption do
    let target ← range? line 0
    let selection ← range? line character
    pure (.array [.object [("targetRange", target), ("targetSelectionRange", selection),
      ("targetUri", .string uri)]])
  | .empty => .result (.array [])
  | .null => .result .null
  | .hang => .silent
  | .error => .refusal (-32603) "stub failure"
  | .mixed => ofOption do
    let good ← range? line character
    let bad ← range? (-1) 0
    pure (.array [located uri good, located uri bad, .object [("uri", .string uri)]])

/-- What the server says of itself when a session starts. -/
def introduction : Json :=
  .object [
    ("capabilities", .object [("definitionProvider", .bool true), ("textDocumentSync", .int 1)]),
    ("serverInfo", .object [("name", .string "stub-lsp"), ("version", .string productVersion)])]

def configurationRequest (n : Nat) : Json :=
  Message.make (some (.string ("stub-" ++ Decimal.natText n))) "workspace/configuration"
    (.object [("items", .array [.object [("section", .string "python")]])])

def logMessage (index total : Nat) : Json :=
  Message.notification "window/logMessage" (.object [
    ("message", .string ("stub-lsp: indexing chunk " ++ Decimal.natText index ++ " of "
      ++ Decimal.natText total)),
    ("type", .int 4)])

def say (text : String) : Effect := .line ("stub-lsp: " ++ text)

end Stub

structure Stub where
  options : Stub.Options
  /-- The number of the next request for settings. -/
  nextId : Nat := 1

namespace Stub

/-- What follows a notification. -/
def onNotification (method : String) (s : Stub) : Stub × List Effect :=
  if method ≠ "initialized" then (s, [])
  else
    let flood := (List.range s.options.flood).map fun i =>
      Effect.send (logMessage (i + 1) s.options.flood)
    if s.options.askConfiguration then
      ({ s with nextId := s.nextId + 1 }, .send (configurationRequest s.nextId) :: flood)
    else (s, flood)

def respond (method : String) (id : Json) : Reply → List Effect
  | .result value => [.send (Message.answer id value)]
  | .refusal code text => [.send (Message.refusal id code text)]
  | .silent => [say ("not answering " ++ method)]
  | .overflow => [.exit 101]

/-- What follows a request. -/
def onRequest (method : String) (id m : Json) (o : Options) : List Effect :=
  if method = "initialize" then respond method id (.result introduction)
  else if method = "textDocument/definition" then
    (if o.delay = 0 then [] else [.pause (o.delay * 1000000)])
      ++ respond method id (lookup o ((m.get? "params").getD .null))
  else respond method id (.result .null)

/-- Read a message. -/
def receive (m : Json) (s : Stub) : Stub × List Effect :=
  let method := (Message.method? m).getD ""
  if method = "" then
    (s, [say ("<- response " ++ ((m.get? "id").getD .null).compactText)])
  else
    let heard := say ("<- " ++ method)
    if s.options.crashOn = some method then (s, [heard, say ("crashing on " ++ method), .exit 3])
    else if method = "exit" then (s, [heard, .exit 0])
    else match m.get? "id" with
      | some id => (s, heard :: onRequest method id m s.options)
      | none =>
        let (s, more) := s.onNotification method
        (s, heard :: more)

/-- The code that a process ends with which cannot have a buffer. -/
def refusedCode : Frame.Refusal → Nat
  | .oversized => 101
  | .exhausted _ => 134

/-- All that the server does with an input. -/
def serveWith (limit : Nat) : Nat → Stub → Bytes → List Effect
  | 0, _, _ => [.exit 0]
  | fuel + 1, s, input =>
    match Frame.read input limit with
    | .finished => [.exit 0]
    | .refused refusal _ => [.exit (refusedCode refusal)]
    | .message m rest =>
      let (s, effects) := s.receive m
      if effects.any Effect.isExit then effects else effects ++ serveWith limit fuel s rest

def serve (o : Options) (input : Bytes) (limit : Nat := Frame.capacity) : List Effect :=
  serveWith limit (input.length + 1) { options := o } input

end Stub

end LookupBench
