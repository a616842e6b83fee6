import LookupBench.Source.Statement
import LookupBench.Source.Walk
import LookupBench.Text.Line
import LookupBench.Text.Pattern

/-!
# Occurrences

Where in a source the names stand whose definitions are worth looking up. A source without errors
is read as a syntax tree: names that are used count, those that a definition or an import binds do
not, and calls and attributes are told apart, as are names and modules that were imported. If a
source has errors, or its tree yields nothing, every word of it that could be a name counts.
-/

namespace LookupBench

inductive OccurrenceKind where
  | name
  | attr
  | call
  | importedName
  | importedAttr
  | importedCall
  | attrCall
  | importedAttrCall
  | regex
  deriving DecidableEq, Repr

namespace OccurrenceKind

def all : List OccurrenceKind :=
  [name, attr, call, importedName, importedAttr, importedCall, attrCall, importedAttrCall, regex]

def label : OccurrenceKind → String
  | name => "name"
  | attr => "attr"
  | call => "call"
  | importedName => "imported_name"
  | importedAttr => "imported_attr"
  | importedCall => "imported_call"
  | attrCall => "attr_call"
  | importedAttrCall => "imported_attr_call"
  | regex => "regex"

def isImported : OccurrenceKind → Bool
  | importedName | importedAttr | importedCall | importedAttrCall => true
  | _ => false

def ofLabel? (s : String) : Option OccurrenceKind := all.find? fun k => k.label = s

end OccurrenceKind

/-- A token in a source. Lines count from one, columns from zero and in UTF-16 units. -/
structure Occurrence where
  line : Nat
  column : Nat
  token : String
  kind : OccurrenceKind
  deriving DecidableEq, Repr

/-- Names whose definitions tell nothing. -/
def excludedNames : List String :=
  ["True", "False", "None", "self", "cls", "int", "str", "float", "bool", "list", "dict", "set",
    "tuple", "object"]

def isExcluded (token : String) : Bool := excludedNames.contains token

namespace Source

/-! ### Places -/

variable {src : List Char}

namespace Name

/-- The row of a name: the line feeds in front of it. -/
def row (n : Name src) : Nat := (src.take n.start).count '\n'

/-- The octets between the last line feed in front of a name and the name. -/
def octets (n : Name src) : Nat :=
  (Utf8.encodeChars ((src.take n.start).reverse.takeWhile (· ≠ '\n')).reverse).length

/-- The column of a name in the line that its row is. -/
def column (n : Name src) : Nat := utf16Column ((linesOf src)[n.row]?.getD []) n.octets

def occurrence (n : Name src) (kind : OccurrenceKind) : Occurrence :=
  ⟨n.row + 1, n.column, n.text, kind⟩

end Name

/-! ### Imports -/

/-- Names that imports bind, and those of them that stand for modules. -/
structure Imports where
  names : List String
  modules : List String
  deriving Repr

/-- The text from the first name of a dotted one to the end of the last. -/
def dottedText (dotted : Tree src) : List Char :=
  match dotted.children.head?, dotted.children.getLast? with
  | some (.identifier _ first), some (.identifier _ last) =>
    (src.drop first.start).take (last.start + last.chars.length - first.start)
  | _, _ => []

/-- What a clause of an import binds: its alias, or what it names. An imported module is bound by
the part in front of the first dot. -/
def boundName (fromModule : Bool) (clause : Tree src) : Option String :=
  match clause with
  | .node .aliasedImport _ _ =>
    match clause.part? .alias with
    | some (.identifier _ n) => some n.text
    | _ => none
  | .node .dottedName _ _ =>
    let full := dottedText clause
    some (String.ofList (if fromModule then full else full.takeWhile (· ≠ '.')))
  | _ => none

def boundNames (fromModule : Bool) (clauses : List (Tree src)) : List String :=
  (clauses.filter fun c => c.role = .name).filterMap (boundName fromModule)

/-- What one tree binds, if it is an import. -/
def importsOf : Tree src → Imports
  | .node .importStatement _ children =>
    let bound := boundNames false children
    ⟨bound, bound⟩
  | .node .importFromStatement _ children => ⟨boundNames true children, []⟩
  | _ => ⟨[], []⟩

def importsIn (t : Tree src) : Imports :=
  let found := (walk t).map fun s => importsOf s.focus
  ⟨found.flatMap (·.names), found.flatMap (·.modules)⟩

/-- Whether the object of an attribute is an imported module. -/
def Imports.isModuleBase (imports : Imports) (t : Tree src) : Bool :=
  match t.part? .object with
  | some (.identifier _ n) => imports.modules.contains n.text
  | _ => false

/-! ### References -/

def isParameterList : Kind → Bool
  | .parameters | .lambdaParameters | .typedParameter => true
  | _ => false

/-- Whether an identifier is used at a spot, and not bound. -/
def isReference (role : Role) (parent grandparent : Option (Tree src)) : Bool :=
  match parent >>= Tree.kind? with
  | none => false
  | some .attribute => role ≠ .attribute
  | some .functionDefinition | some .classDefinition | some .keywordArgument
  | some .defaultParameter | some .typedDefaultParameter => role ≠ .name
  | some .listSplatPattern | some .dictionarySplatPattern =>
    match grandparent >>= Tree.kind? with
    | some kind => !isParameterList kind
    | none => true
  | some .parameters | some .lambdaParameters | some .typedParameter | some .dottedName
  | some .aliasedImport | some .importStatement | some .importFromStatement
  | some .relativeImport | some .globalStatement | some .nonlocalStatement => false
  | _ => true

/-- An identifier whose name is not excluded. -/
def worthwhile : Option (Tree src) → Option (Name src)
  | some (.identifier _ n) => if isExcluded n.text then none else some n
  | _ => none

/-- The occurrence that a spot gives, if any. -/
def occurrenceOf (imports : Imports) (s : Spot src) : Option Occurrence :=
  match s.focus with
  | .identifier role _ =>
    if isReference role s.parent? s.grandparent? then
      (worthwhile (some s.focus)).map fun n =>
        let imported := imports.names.contains n.text
        n.occurrence (if imported then .importedName else .name)
    else none
  | .node .attribute _ _ =>
    (worthwhile (s.focus.part? .attribute)).map fun n =>
      let imported := imports.isModuleBase s.focus
      n.occurrence (if imported then .importedAttr else .attr)
  | .node .call _ _ =>
    match s.focus.part? .function with
    | some (.identifier role name) =>
      (worthwhile (some (.identifier role name))).map fun n =>
        let imported := imports.names.contains n.text
        n.occurrence (if imported then .importedCall else .call)
    | some (.node .attribute role parts) =>
      let callee : Tree src := .node .attribute role parts
      (worthwhile (callee.part? .attribute)).map fun n =>
        let imported := imports.isModuleBase callee
        n.occurrence (if imported then .importedAttrCall else .attrCall)
    | _ => none
  | _ => none

def treeOccurrences (t : Tree src) : List Occurrence :=
  let imports := importsIn t
  (walk t).filterMap (occurrenceOf imports)

/-- The occurrences of a source without errors. -/
def syntaxOccurrences (source : List Char) : Option (List Occurrence) :=
  (parse? source).map treeOccurrences

/-! ### Words -/

/-- A word that could be a name: ASCII letters, digits and underscores that do not start with a
digit, between the ends of a word. -/
def namePattern : List PatternPart :=
  [.boundary, .one fun c => isAsciiLetter c || c = '_', .many isAsciiWord, .boundary]

/-- The size of such a word that starts here; zero if none does. -/
def wordSize (before : Option Char) (cs : List Char) : Nat :=
  (matchSize? namePattern before cs).getD 0

/-- The words of a line, with the octets in front of them. `skip` characters of the last word are
still to be passed. -/
def wordsOf (before : Option Char) (octets : Nat) : Nat → List Char → List (Nat × List Char)
  | _, [] => []
  | skip + 1, c :: rest => wordsOf (some c) (octets + (Utf8.encodeChar c).length) skip rest
  | 0, c :: rest =>
    let size := wordSize before (c :: rest)
    let later := wordsOf (some c) (octets + (Utf8.encodeChar c).length) (size - 1) rest
    if size = 0 then later else (octets, (c :: rest).take size) :: later

def lineWords (line : Nat) (cs : List Char) : List Occurrence :=
  (wordsOf none 0 0 cs).filterMap fun (octets, word) =>
    let token := String.ofList word
    if isExcluded token then none else some ⟨line, utf16Column cs octets, token, .regex⟩

def wordOccurrencesFrom (line : Nat) : List (List Char) → List Occurrence
  | [] => []
  | cs :: rest => lineWords line cs ++ wordOccurrencesFrom (line + 1) rest

/-- Every word of a source that could be a name. -/
def wordOccurrences (source : List Char) : List Occurrence :=
  wordOccurrencesFrom 1 (linesOf source)

/-- The occurrences of a source. -/
def occurrences (source : List Char) : List Occurrence :=
  match syntaxOccurrences source with
  | some (first :: rest) => first :: rest
  | _ => wordOccurrences source

end Source

end LookupBench
