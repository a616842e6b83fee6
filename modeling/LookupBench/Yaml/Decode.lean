import LookupBench.Json.Value
import LookupBench.Yaml.Document
import LookupBench.Yaml.Scalar

/-!
# Documents as data

Decoders take data of a known shape out of a document. The parts are looked at in the order in which
they are written, so the first misfit counts, and one in front of a cut comes before the reason for
the cut. A misfit lies at the innermost part that was asked for. Collections do not nest deeper than
128 levels, and aliases are not followed more often than a hundred times for each part of the
document.
-/

namespace LookupBench.Yaml

/-- Where a misfit lies: the mark of the part and the way to it. -/
structure Spot where
  mark : Mark
  path : String
  deriving Repr

inductive DecodeFailure where
  | misfit (cause : Misfit) (spot : Option Spot)
  | document (failure : Failure)
  | tooDeep (mark : Mark)
  | tooManyAliases
  | manyDocuments
  /-- The document ends where a value should stand. -/
  | noValue
  deriving Repr

def DecodeFailure.message : DecodeFailure → String
  | .misfit cause none => cause.message
  | .misfit cause (some spot) =>
    (if spot.path.isEmpty then "" else spot.path ++ ": ") ++ cause.message ++ spot.mark.note
  | .document cause => cause.message
  | .tooDeep mark => "recursion limit exceeded" ++ mark.note
  | .tooManyAliases => "repetition limit exceeded"
  | .manyDocuments =>
    "deserializing from YAML containing more than one document is not supported"
  | .noValue => "EOF while parsing a value"

/-- What a decoder may look up. -/
structure Scope where
  anchored : List (Nat × Node)
  aliasLimit : Nat
  failure : Option Failure

/-- Decoding counts the aliases that were followed. -/
abbrev Decode := ReaderT Scope (StateT Nat (Except DecodeFailure))

namespace Decode

variable {α : Type}

def fail (misfit : Misfit) : Decode α := throw (.misfit misfit none)

/-- A misfit inside that has no spot yet lies here. -/
def placed (mark : Mark) (path : String) (action : Decode α) : Decode α := fun scope count =>
  match action scope count with
  | .error (.misfit cause none) => .error (.misfit cause (some ⟨mark, path⟩))
  | result => result

end Decode

/-- Where a value stands: how many levels may still be opened, and the way to it. -/
structure Site where
  depth : Nat
  path : String

namespace Site

def item (s : Site) (index : Nat) : Site :=
  { s with path := s.path ++ "[" ++ Decimal.natText index ++ "]" }

/-- The value of a key. A key that is no scalar has no name. -/
def member (s : Site) (key : Node) : Site :=
  let lead := if s.path.isEmpty then "" else s.path ++ "."
  match key with
  | .scalar _ _ text => { s with path := lead ++ text }
  | _ => { s with path := lead ++ "?" }

end Site

abbrev Decoder (α : Type) := Site → Node → Decode α

namespace Decoder

open Decode

variable {α β : Type}

/-- The node that an alias stands for; other nodes stand for themselves. -/
def follow : Node → Decode Node
  | .alias _ anchor => do
    let scope ← read
    let count ← getModify (· + 1)
    if scope.aliasLimit < count + 1 then throw .tooManyAliases
    return (scope.anchored.reverse.lookup anchor).getD .cut
  | node => return node

def atCut : Decode α := do
  match (← read).failure with
  | some failure => throw (.document failure)
  | none => throw .noValue

/-- Refuse a node. -/
def refuseNode (expected : String) : Node → Decode α
  | .scalar label style s =>
    match resolve label.tag style s with
    | .ok found => fail (.wrongType found expected)
    | .error misfit => fail misfit
  | .sequence .. => fail (.wrongType .sequence expected)
  | .mapping .. => fail (.wrongType .map expected)
  | .alias .. | .cut => atCut

/-- A scalar of one kind. -/
def scalar (expected : String) (read : Option Bytes → Style → String → Option α) : Decoder α :=
  fun site node => do
    match ← follow node with
    | .scalar label style s =>
      match read label.tag style s with
      | some a => return a
      | none => placed label.mark site.path (refuseNode expected (.scalar label style s))
    | .sequence label items => placed label.mark site.path (refuseNode expected (.sequence label items))
    | .mapping label entries =>
      placed label.mark site.path (refuseNode expected (.mapping label entries))
    | .alias .. | .cut => atCut

/-- A text. Any scalar reads as one, whatever it looks like. -/
def text (expected : String := "a string") : Decoder String :=
  scalar expected fun _ _ s => some s

def flag : Decoder Bool :=
  scalar "a boolean" fun tag style s => if mayStandFor .bool tag style then truth? s else none

/-- An unsigned word of 64 bits. -/
def natural (name : String) : Decoder Nat :=
  scalar name fun tag style s => if mayStandFor .int tag style then nat64? s else none

def number : Decoder Binary64 :=
  scalar "f64" fun tag style s => if mayStandFor .float tag style then float? s else none

/-- Nothing, for an empty scalar or a null, or else a value. -/
def optional (decode : Decoder α) : Decoder (Option α) := fun site node => do
  let node ← follow node
  match node with
  | .scalar label .plain s =>
    match label.tag with
    | none => if s.isEmpty || isNull s then return none
    | some tag =>
      if CoreTag.ofOctets? tag = some .null then
        if isNull s then return none else fail (.wrongValue s "null")
    return some (← decode site node)
  | .cut => atCut
  | node => return some (← decode site node)

/-- Go one level down. -/
def descend (mark : Mark) (site : Site) (action : Site → Decode α) : Decode α :=
  match site.depth with
  | 0 => throw (.tooDeep mark)
  | depth + 1 => action { site with depth }

/-- The items of a sequence in order, up to a cut. -/
def items (decode : Decoder α) (site : Site) : Nat → List Node → Decode (List α)
  | _, [] => return []
  | _, .cut :: _ => atCut
  | index, node :: rest => do
    let a ← decode (site.item index) node
    return a :: (← items decode site (index + 1) rest)

/-- A list. An empty scalar reads as an empty one. -/
def list (decode : Decoder α) : Decoder (List α) := fun site node => do
  match ← follow node with
  | .sequence label nodes =>
    placed label.mark site.path (descend label.mark site fun site => items decode site 0 nodes)
  | .scalar label style s =>
    if style = .plain && s.isEmpty then return []
    else placed label.mark site.path (refuseNode "a sequence" (.scalar label style s))
  | .mapping label entries =>
    placed label.mark site.path (refuseNode "a sequence" (.mapping label entries))
  | .alias .. | .cut => atCut

mutual

/-- Pass a value without looking at it. Only a cut inside it matters. -/
def passes : Node → Bool
  | .scalar .. | .alias .. => true
  | .sequence _ items => passesItems items
  | .mapping _ entries => passesEntries entries
  | .cut => false

def passesItems : List Node → Bool
  | [] => true
  | item :: rest => passes item && passesItems rest

def passesEntries : List (Node × Node) → Bool
  | [] => true
  | (key, value) :: rest => passes key && passes value && passesEntries rest

end

/-- The entries of a record: `step` takes the value of a field into what has been read so far. -/
def fields (names : List String) (step : β → String → Decoder β) (site : Site) :
    List String → β → List (Node × Node) → Decode β
  | _, draft, [] => return draft
  | _, _, (.cut, _) :: _ => atCut
  | seen, draft, (key, value) :: rest => do
    let name ← text "field identifier" site key
    if names.contains name then
      if seen.contains name then fail (.repeated name)
      else
        let draft ← step draft name (site.member key) value
        fields names step site (name :: seen) draft rest
    else if passes value then fields names step site seen draft rest
    else atCut

/-- A record. An empty scalar reads as one without entries. -/
def record (name : String) (names : List String) (step : β → String → Decoder β) (start : β)
    (finish : β → Except Misfit α) : Decoder α := fun site node => do
  let close (draft : β) : Decode α :=
    match finish draft with
    | .ok a => return a
    | .error misfit => fail misfit
  let expected := "struct " ++ name
  match ← follow node with
  | .mapping label entries =>
    placed label.mark site.path <| do
      let draft ← descend label.mark site fun site => fields names step site [] start entries
      close draft
  | .scalar label style s =>
    placed label.mark site.path <|
      if style = .plain && s.isEmpty then close start
      else refuseNode expected (.scalar label style s)
  | .sequence label items => placed label.mark site.path (refuseNode expected (.sequence label items))
  | .alias .. | .cut => atCut

/-! ### Values of any shape -/

def ofFound : Found → Decode Json
  | .unit => return .null
  | .bool b => return .bool b
  | .int i => return .int i
  | .wide _ => fail .numberRange
  | .float x => return if x.isFinite then .float x else .null
  | .text s => return .string s
  | found => fail (.wrongType found "any valid JSON value")

/-- The entries of a mapping; the last value of a key counts. -/
def members (value : Decoder Json) (site : Site) :
    Bool → List (Node × Node) → Decode (List (String × Json))
  | _, [] => return []
  | _, (.cut, _) :: _ => atCut
  | first, (key, node) :: rest => do
    let name ← text (if first then "a string key" else "a string") site key
    let v ← value (site.member key) node
    return (name, v) :: (← members value site false rest)

def refuseChoice (mark : Mark) (path : String) : Decode Json :=
  placed mark path (fail (.wrongType .choice "any valid JSON value"))

/-- A value of any shape at most so many levels deep. -/
def valueWithin : Nat → Decoder Json := fun depth site node => do
  match ← follow node with
  | .scalar label style s =>
    if isChoice label.tag then refuseChoice label.mark site.path
    else
      match resolve label.tag style s with
      | .ok found => placed label.mark site.path (ofFound found)
      | .error misfit => placed label.mark site.path (fail misfit)
  | .sequence label nodes =>
    if isChoice label.tag then refuseChoice label.mark site.path
    else match depth with
      | 0 => throw (.tooDeep label.mark)
      | depth + 1 =>
        placed label.mark site.path do
          return .array (← items (valueWithin depth) site 0 nodes)
  | .mapping label entries =>
    if isChoice label.tag then refuseChoice label.mark site.path
    else match depth with
      | 0 => throw (.tooDeep label.mark)
      | depth + 1 =>
        placed label.mark site.path do
          return .ofMembers (← members (valueWithin depth) site true entries)
  | .alias .. | .cut => atCut

def value : Decoder Json := fun site node => valueWithin site.depth site node

end Decoder

/-! ### Whole texts -/

/-- How deep collections nest at most. -/
def depthLimit : Nat := 128

/-- Decode the single document of a text. -/
def decodeText {α : Type} (decode : Decoder α) (text : String) : Except DecodeFailure α :=
  let document := Document.ofText text.toList
  let scope : Scope :=
    ⟨document.root.anchored, 100 * document.root.size, document.failure⟩
  match decode ⟨depthLimit, ""⟩ document.root scope 0 with
  | .error e => .error e
  | .ok (a, _) =>
    match document.failure with
    | some failure => .error (.document failure)
    | none => if document.more then .error .manyDocuments else .ok a

end LookupBench.Yaml
