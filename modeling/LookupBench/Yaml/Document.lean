import LookupBench.Yaml.Node

/-!
# Documents

The first document of a text. Where the text turns out to be no YAML, the failure is kept and no
token follows it, so that every open collection ends in a cut.
-/

namespace LookupBench.Yaml

/-- Why a document ends early. -/
inductive Failure where
  | refused (refusal : Refusal)
  | unknownAnchor (mark : Mark)
  deriving Repr

def Failure.message : Failure → String
  | .refused refusal => refusal.message
  | .unknownAnchor mark => "unknown anchor" ++ mark.note

/-- The first document of a text. -/
structure Document where
  root : Node
  failure : Option Failure
  /-- Whether anything comes after it. -/
  more : Bool

/-! ## From tokens to nodes -/

structure Reader where
  lexer : Lexer
  failure : Option Failure := none
  /-- What handles stand for. -/
  handles : List (Bytes × Bytes) := []
  /-- The numbers of names. -/
  anchors : List (List Char × Nat) := []

abbrev Read := StateM Reader

namespace Read

def fail (failure : Failure) : Read Unit :=
  modify fun r => { r with failure := some (r.failure.getD failure) }

/-- Cut the tree. -/
def cutAt (problem : Problem) (mark : Mark) (context : Option (Activity × Mark)) : Read Node := do
  fail (.refused (.text problem mark context))
  return .cut

/-- The first token that is left. There is none after a failure. -/
def peek : Read (Option Token) := do
  let r ← get
  if r.failure.isSome then return none
  match r.lexer.peek with
  | .error e =>
    fail (.refused e)
    return none
  | .ok (lexer, token) =>
    set { r with lexer }
    return token

/-- Pass the first token and look at the one behind it. -/
def next : Read (Option Token) := do
  modify fun r => { r with lexer := r.lexer.drop }
  peek

def drop : Read Unit := modify fun r => { r with lexer := r.lexer.drop }

/-- Give a name its number. A name that is given twice does not count twice, so that the number
may be in use already. -/
def addAnchor (name : List Char) : Read Nat :=
  modifyGet fun r =>
    let n := r.anchors.length
    (n, { r with anchors := (name, n) :: r.anchors.filter (·.1 ≠ name) })

/-! ### Directives -/

def defaultHandles : List (Bytes × Bytes) :=
  [(Utf8.encode "!", Utf8.encode "!"), (Utf8.encode "!!", Utf8.encode "tag:yaml.org,2002:")]

/-- The directives in front of a document, from its first token on; the token behind them. -/
def directives : Nat → Bool → Option Token → Read (Option Token)
  | 0, _, token => return token
  | fuel + 1, versioned, token => do
    match token with
    | none => return none
    | some token =>
      match token.kind with
      | .directive (.version major minor) =>
        if versioned then
          fail (.refused (.text .duplicateVersion token.start none))
          return none
        else if major ≠ 1 ∨ (minor ≠ 1 ∧ minor ≠ 2) then
          fail (.refused (.text .incompatible token.start none))
          return none
        else directives fuel true (← next)
      | .directive (.handle name pre) =>
        if ((← get).handles.lookup name).isSome then
          fail (.refused (.text .duplicateHandle token.start none))
          return none
        else
          modify fun r => { r with handles := r.handles ++ [(name, pre)] }
          directives fuel versioned (← next)
      | _ =>
        modify fun r => { r with handles := r.handles ++ defaultHandles }
        return some token

/-! ### Nodes -/

/-- An anchor and a tag, in either order, and the token behind them. -/
def properties (token : Token) :
    Read (Option (List Char) × Option (Tag × Mark) × Option Token) := do
  match token.kind with
  | .anchor name =>
    match ← next with
    | some ⟨.tag tag, mark, _⟩ => return (some name, some (tag, mark), ← next)
    | token => return (some name, none, token)
  | .tag tag =>
    match ← next with
    | some ⟨.anchor name, _, _⟩ => return (some name, some (tag, token.start), ← next)
    | behind => return (none, some (tag, token.start), behind)
  | _ => return (none, none, some token)

/-- The whole of a tag. -/
def expand (start : Mark) : Option (Tag × Mark) → Read (Option Bytes)
  | none => return none
  | some (tag, mark) => do
    if tag.handle.isEmpty then return some tag.suffix
    match (← get).handles.lookup tag.handle with
    | some pre => return some (pre ++ tag.suffix)
    | none =>
      fail (.refused (.text .unknownHandle mark (some (.node, start))))
      return none

/-- The number of an anchor, taken when its node is found to be there. -/
def numbered : Option (List Char) → Read (Option Nat)
  | none => return none
  | some name => do return some (← addAnchor name)

/-- Where a node stands: what else than the node may begin there. -/
inductive Setting where
  | block
  | flow
  /-- The entries of a sequence need not be indented in a mapping. -/
  | member
  deriving DecidableEq, Repr

/-- The tag that a scalar keeps. A lone exclamation mark says no more than that there is one. -/
def scalarTag (tag : Option Bytes) : Option Bytes :=
  if tag = some (Utf8.encode "!") then none else tag

def isOneOf (kinds : List TokenKind) (token : Option Token) : Bool :=
  token.any fun t => kinds.contains t.kind

/-- The token that starts an entry in brackets, or closes them. -/
def flowEntry (closer : TokenKind) (problem : Problem) (activity : Activity) (start : Mark)
    (first : Bool) : Read (Option Token) := do
  let some token ← peek | return none
  if token.kind = closer || first then return some token
  else if token.kind = .comma then next
  else
    fail (.refused (.text problem token.start (some (activity, start))))
    return none

mutual

def node (fuel : Nat) (setting : Setting) : Read Node :=
  match fuel with
  | 0 => return .cut
  | fuel + 1 => do
    let some first ← peek | return .cut
    if let .alias name := first.kind then
      drop
      match (← get).anchors.lookup name with
      | some n => return .alias first.start n
      | none =>
        fail (.unknownAnchor first.start)
        return .cut
    let start := first.start
    let (anchor, tag, token) ← properties first
    let some token := token | return .cut
    let full ← expand start tag
    if (← get).failure.isSome then return .cut
    let blocks := setting ≠ .flow
    match token.kind with
    | .dash =>
      if setting = .member then
        return .sequence ⟨start, ← numbered anchor, full⟩ (← looseItems fuel)
    | .scalar style text =>
      drop
      return .scalar ⟨start, ← numbered anchor, scalarTag full⟩ style (String.ofList text)
    | .openBracket =>
      let label := ⟨start, ← numbered anchor, full⟩
      drop
      return .sequence label (← flowItems fuel token.start true)
    | .openBrace =>
      let label := ⟨start, ← numbered anchor, full⟩
      drop
      return .mapping label (← flowEntries fuel token.start true)
    | .sequenceBlock =>
      if blocks then
        let label := ⟨start, ← numbered anchor, full⟩
        drop
        return .sequence label (← blockItems fuel token.start)
    | .mappingBlock =>
      if blocks then
        let label := ⟨start, ← numbered anchor, full⟩
        drop
        return .mapping label (← blockEntries fuel token.start)
    | _ => pure ()
    if anchor.isSome || tag.isSome then
      return .scalar ⟨start, ← numbered anchor, full⟩ .plain ""
    else
      cutAt .noContent token.start (some (if blocks then .blockNode else .flowNode, start))

/-- A node, or an empty scalar at a place where one of some tokens follows. -/
def nodeOrEmpty (fuel : Nat) (setting : Setting) (others : List TokenKind) (mark : Mark) :
    Read Node :=
  match fuel with
  | 0 => return .cut
  | fuel + 1 => do
    let token ← peek
    if isOneOf others token then return .empty mark
    else node fuel setting

/-- The entries of a sequence in a block of its own. -/
def blockItems (fuel : Nat) (start : Mark) : Read (List Node) :=
  match fuel with
  | 0 => return [.cut]
  | fuel + 1 => do
    let some token ← peek | return [.cut]
    match token.kind with
    | .dash =>
      drop
      let item ← nodeOrEmpty fuel .block [.dash, .blockEnd] token.stop
      return item :: (← blockItems fuel start)
    | .blockEnd =>
      drop
      return []
    | _ => return [← cutAt .noSequenceEntry token.start (some (.blockSequence, start))]

/-- The entries of a sequence in the block of its mapping. -/
def looseItems (fuel : Nat) : Read (List Node) :=
  match fuel with
  | 0 => return [.cut]
  | fuel + 1 => do
    let some token ← peek | return [.cut]
    if token.kind = .dash then
      drop
      let item ← nodeOrEmpty fuel .block [.dash, .key, .value, .blockEnd] token.stop
      return item :: (← looseItems fuel)
    else return []

def blockEntries (fuel : Nat) (start : Mark) : Read (List (Node × Node)) :=
  match fuel with
  | 0 => return [(.cut, .cut)]
  | fuel + 1 => do
    let some token ← peek | return [(.cut, .cut)]
    match token.kind with
    | .key =>
      drop
      let key ← nodeOrEmpty fuel .member [.key, .value, .blockEnd] token.stop
      let value ← blockValue fuel
      return (key, value) :: (← blockEntries fuel start)
    | .blockEnd =>
      drop
      return []
    | _ => return [(← cutAt .noKey token.start (some (.blockMapping, start)), .cut)]

def blockValue (fuel : Nat) : Read Node :=
  match fuel with
  | 0 => return .cut
  | fuel + 1 => do
    let some token ← peek | return .cut
    if token.kind = .value then
      drop
      nodeOrEmpty fuel .member [.key, .value, .blockEnd] token.stop
    else return .empty token.start

/-- The entries of a sequence in brackets. All but the first stand behind a comma. -/
def flowItems (fuel : Nat) (start : Mark) (first : Bool) : Read (List Node) :=
  match fuel with
  | 0 => return [.cut]
  | fuel + 1 => do
    let some token ← flowEntry .closeBracket .noCommaOrBracket .flowSequence start first
      | return [.cut]
    match token.kind with
    | .closeBracket =>
      drop
      return []
    | .key =>
      drop
      let item := Node.mapping { mark := token.start } (← flowPair fuel)
      return item :: (← flowItems fuel start false)
    | _ =>
      let item ← node fuel .flow
      return item :: (← flowItems fuel start false)

/-- A mapping of one entry that stands in a sequence without braces. Where its key is missing, so is
the token behind it. -/
def flowPair (fuel : Nat) : Read (List (Node × Node)) :=
  match fuel with
  | 0 => return [(.cut, .cut)]
  | fuel + 1 => do
    let some token ← peek | return [(.cut, .cut)]
    let key ←
      if [TokenKind.value, .comma, .closeBracket].contains token.kind then do
        drop
        pure (Node.empty token.stop)
      else node fuel .flow
    let value ← flowValue fuel .closeBracket
    if (← peek).isSome then return [(key, value)] else return [(key, value), (.cut, .cut)]

def flowEntries (fuel : Nat) (start : Mark) (first : Bool) : Read (List (Node × Node)) :=
  match fuel with
  | 0 => return [(.cut, .cut)]
  | fuel + 1 => do
    let some token ← flowEntry .closeBrace .noCommaOrBrace .flowMapping start first
      | return [(.cut, .cut)]
    match token.kind with
    | .closeBrace =>
      drop
      return []
    | .key =>
      drop
      let mark := ((← peek).map (·.start)).getD token.start
      let key ← nodeOrEmpty fuel .flow [.value, .comma, .closeBrace] mark
      let value ← flowValue fuel .closeBrace
      return (key, value) :: (← flowEntries fuel start false)
    | _ =>
      let key ← node fuel .flow
      let value := (← peek).elim Node.cut fun token => .empty token.start
      return (key, value) :: (← flowEntries fuel start false)

def flowValue (fuel : Nat) (closer : TokenKind) : Read Node :=
  match fuel with
  | 0 => return .cut
  | fuel + 1 => do
    let some token ← peek | return .cut
    if token.kind = .value then
      let some token ← next | return .cut
      nodeOrEmpty fuel .flow [.comma, closer] token.start
    else return .empty token.start

end

/-! ### The whole -/

/-- A bound on the steps that a text takes. -/
def fuelFor (text : List Char) : Nat := 8 * text.length + 64

def isDocumentMark (kind : TokenKind) : Bool :=
  match kind with
  | .directive _ | .documentStart | .documentEnd | .streamEnd => true
  | _ => false

/-- The root of a document whose start is marked. -/
def explicitRoot (fuel : Nat) (token : Token) : Read Node := do
  let some token ← directives fuel false (some token) | return .cut
  if token.kind ≠ .documentStart then cutAt .noDocumentStart token.start none
  else
    let some token ← next | return .cut
    if isDocumentMark token.kind then return .empty token.start else node fuel .block

/-- Whether a document follows, or something that is none. -/
def follows : Nat → Read Bool
  | 0 => return false
  | fuel + 1 => do
    match (← peek).map (·.kind) with
    | some TokenKind.documentEnd =>
      drop
      follows fuel
    | kind => return kind ≠ some TokenKind.streamEnd

def document (fuel : Nat) : Read Document := do
  let some token ← next | return ⟨.cut, (← get).failure, false⟩
  match token.kind with
  | .streamEnd => return ⟨.empty token.start, none, false⟩
  | kind =>
    let root ←
      match kind with
      | .directive _ | .documentStart => explicitRoot fuel token
      | _ => do
        let _ ← directives 1 false (some token)
        node fuel .block
    match ← peek with
    | none => return ⟨root, (← get).failure, false⟩
    | some token =>
      if token.kind = .documentEnd then drop
      return ⟨root, none, ← follows fuel⟩

end Read

def Document.ofText (text : List Char) : Document :=
  match firstForbidden 0 text with
  | some octets => ⟨.cut, some (.refused (.control octets)), false⟩
  | none => ((Read.document (Read.fuelFor text)).run { lexer := .ofText text }).run.1

end LookupBench.Yaml
