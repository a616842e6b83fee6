import LookupBench.Files.Tree
import LookupBench.Location
import LookupBench.Uri.FilePath

/-!
# Messages of a client

Requests carry a number and expect an answer; notifications expect none. Parameters that are null
are left out.
-/

namespace LookupBench

/-- The name and the version under which a client introduces itself. -/
def productName : String := "defbench"
def productVersion : String := "0.1.0"

namespace Message

def number (n : Nat) : Json := .int n

/-- A message for a method; with an id it is a request. -/
def make (id : Option Json) (method : String) (params : Json) : Json :=
  .object ((id.map (("id", ·))).toList ++ [("jsonrpc", .string "2.0"), ("method", .string method)]
    ++ (if params.isNull then [] else [("params", params)]))

def request (id : Nat) (method : String) (params : Json) : Json :=
  make (some (number id)) method params

def notification (method : String) (params : Json) : Json := make none method params

/-- The answer to a request. -/
def answer (id result : Json) : Json :=
  .object [("id", id), ("jsonrpc", .string "2.0"), ("result", result)]

def refusal (id : Json) (code : Int) (text : String) : Json :=
  .object [("error", .object [("code", .int code), ("message", .string text)]), ("id", id),
    ("jsonrpc", .string "2.0")]

def method? (m : Json) : Option String := (m.get? "method").bind Json.asString?

/-- An id that is null counts for none. -/
def id? (m : Json) : Option Json := (m.get? "id").filter fun id => !id.isNull

/-! ### Parameters -/

/-- The name of a workspace folder: its last component, or else the whole path. -/
def folderName (root : Path) : String :=
  match root.fileName with
  | some name => Utf8.decodeStringLossy name
  | none => root.display

/-- What a client says of itself when a session starts. -/
def introduction (processId : Nat) (rootUri folder : String) (trace : Bool) : Json :=
  .object [
    ("capabilities", .object [
      ("textDocument", .object [("definition", .object [("dynamicRegistration", .bool false),
        ("linkSupport", .bool true)])]),
      ("workspace", .object [("configuration", .bool true), ("workspaceFolders", .bool true)])]),
    ("clientInfo", .object [("name", .string productName), ("version", .string productVersion)]),
    ("processId", .int processId),
    ("rootUri", .string rootUri),
    ("trace", .string (if trace then "verbose" else "off")),
    ("workspaceFolders", .array [.object [("name", .string folder), ("uri", .string rootUri)]])]

def settings (settings : Json) : Json := .object [("settings", settings)]

def document (uri text language : String) : Json :=
  .object [("textDocument", .object [("languageId", .string language), ("text", .string text),
    ("uri", .string uri), ("version", .int 1)])]

def position (uri : String) (position : Position) : Json :=
  .object [
    ("position", .object [("character", .int position.character), ("line", .int position.line)]),
    ("textDocument", .object [("uri", .string uri)])]

end Message

end LookupBench
