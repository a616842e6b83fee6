import LookupBench.Files.Failure
import LookupBench.Files.Path

/-!
# File trees

Directories, regular files and symbolic links as one value, and the operations on paths in it:
following links, reading, writing and making directories. Entries of a directory come in no
particular order. Every operation gives the failure that the system would give.
-/

namespace LookupBench

inductive Node where
  | file (content : Bytes) (executable : Bool)
  | link (target : Path)
  | directory (entries : List (Bytes × Node))
  deriving Inhabited

namespace Node

def find? (name : Bytes) : List (Bytes × Node) → Option Node
  | [] => none
  | (n, node) :: rest => if n = name then some node else find? name rest

def isDirectory : Node → Bool
  | directory _ => true
  | _ => false

/-- Where a link leads. -/
def target? : Node → Option Path
  | link target => some target
  | _ => none

/-- The entry that a list of names leads to, without following links. -/
def child? : Node → List Bytes → Option Node
  | node, [] => some node
  | directory entries, name :: rest =>
    match find? name entries with
    | none => none
    | some node => child? node rest
  | _, _ :: _ => none

/-- Replace an entry of a directory, or add one. -/
def setEntry (name : Bytes) (node : Node) : List (Bytes × Node) → List (Bytes × Node)
  | [] => [(name, node)]
  | (n, old) :: rest =>
    if n = name then (name, node) :: rest else (n, old) :: setEntry name node rest

/-- Put an entry where a list of names leads. Directories on the way must be there. -/
def set (node : Node) : List Bytes → Node → Node
  | [], _ => node
  | name :: rest, directory entries =>
    match rest with
    | [] => directory (setEntry name node entries)
    | _ :: _ =>
      match find? name entries with
      | none => directory entries
      | some inner => directory (setEntry name (set node rest inner) entries)
  | _ :: _, other => other

/-- Put an entry where a list of names leads, and make the directories on the way. -/
def plant (node : Node) : List Bytes → Node → Node
  | [], _ => node
  | name :: rest, directory entries =>
    let inner := (find? name entries).getD (directory [])
    directory (setEntry name (plant node rest inner) entries)
  | _ :: _, other => other

def removeEntry (name : Bytes) : List (Bytes × Node) → List (Bytes × Node)
  | [] => []
  | (n, old) :: rest => if n = name then rest else (n, old) :: removeEntry name rest

def remove : List Bytes → Node → Node
  | [], other => other
  | name :: rest, directory entries =>
    match rest with
    | [] => directory (removeEntry name entries)
    | _ :: _ =>
      match find? name entries with
      | none => directory entries
      | some inner => directory (setEntry name (remove rest inner) entries)
  | _ :: _, other => other

end Node

/-- A tree, and the directory that relative paths start from. -/
structure Files where
  root : Node
  current : List Bytes
  deriving Inhabited

namespace Files

/-- A path resolved: the names that lead to it from the root without links, and what is there. A
missing entry of an existing directory is a place where one can be made. -/
inductive Place where
  | found (names : List Bytes) (node : Node)
  | absent (names : List Bytes)

/-- What a path is looked up for. -/
inductive Lookup where
  /-- What it names, be it a link. -/
  | entry
  /-- What it leads to in the end. -/
  | target
  /-- A file to write. -/
  | output
  /-- A directory to make. -/
  | room
  deriving DecidableEq

/-- Whether the entry in front of the pieces left is the answer, links and files included. -/
def Lookup.stopsAt : Lookup → List Bytes → Bool
  | entry, rest => rest.isEmpty
  | room, rest => rest.all (· = [])
  | target, _ => false
  | output, _ => false

/-- Slashes at the end ask for a directory, and none is written as a file. -/
def Lookup.refuses : Lookup → List Bytes → Bool
  | output, rest => !rest.isEmpty && rest.all (· = [])
  | _, _ => false

/-- What becomes of one component of a path. -/
inductive Step where
  | pass (upward : List Bytes)
  | follow (target : Path)
  | arrive (place : Place)

/-- Go to an entry of a directory. `upward` lists the names that lead to it, the last first. -/
def enter (lookup : Lookup) (upward rest : List Bytes) : Option Node → Except IoFailure Step
  | none => if rest.all (· = []) then .ok (.arrive (.absent upward.reverse)) else .error .notFound
  | some node =>
    if lookup.stopsAt rest then .ok (.arrive (.found upward.reverse node))
    else match node.target? with
      | some target => .ok (.follow target)
      | none => .ok (.pass upward)

/-- Take one component from where the names passed lead. -/
def step (root : Node) (lookup : Lookup) (upward : List Bytes) (name : Bytes)
    (rest : List Bytes) : Except IoFailure Step :=
  match root.child? upward.reverse with
  | none => .error .notFound
  | some (.directory entries) =>
    if lookup.refuses rest then .error .isDirectory
    else if name = [] || name = [Path.dot] then .ok (.pass upward)
    else if name = [Path.dot, Path.dot] then .ok (.pass upward.tail)
    else if 255 < name.length then .error .nameTooLong
    else enter lookup (name :: upward) rest (Node.find? name entries)
  | some _ => .error .notDirectory

/-- Walk along components. `follow` goes on where a link leads. -/
def walkWith (root : Node) (lookup : Lookup)
    (follow : Path → List Bytes → List Bytes → Except IoFailure Place) :
    List Bytes → List Bytes → Except IoFailure Place
  | upward, [] =>
    match root.child? upward.reverse with
    | none => .error .notFound
    | some node => .ok (.found upward.reverse node)
  | upward, name :: rest =>
    match step root lookup upward name rest with
    | .error e => .error e
    | .ok (.pass upward) => walkWith root lookup follow upward rest
    | .ok (.follow target) => follow target upward rest
    | .ok (.arrive place) => .ok place

/-- Walk along components and as many links. -/
def walk (root : Node) (lookup : Lookup) :
    Nat → List Bytes → List Bytes → Except IoFailure Place
  | 0 => walkWith root lookup fun _ _ _ => .error .tooManyLinks
  | links + 1 => walkWith root lookup fun target upward rest =>
    if target.isEmpty then .error .notFound
    else walk root lookup links (if target.isAbsolute then [] else upward)
      (Path.pieces target ++ rest)

def linkLimit : Nat := 40

/-- A path has fewer octets. -/
def pathLimit : Nat := 4096

def locate (files : Files) (lookup : Lookup) (p : Path) : Except IoFailure Place :=
  if p.contains 0 then .error .nulInName
  else if p.isEmpty then .error .notFound
  else if pathLimit ≤ p.length then .error .nameTooLong
  else walk files.root lookup linkLimit (if p.isAbsolute then [] else files.current.reverse)
    (Path.pieces p)

/-- What a path leads to in the end. -/
def status (files : Files) (p : Path) : Except IoFailure (List Bytes × Node) :=
  match files.locate .target p with
  | .error e => .error e
  | .ok (.absent _) => .error .notFound
  | .ok (.found names node) => .ok (names, node)

/-- What a path leads to when a link at its end is not followed. -/
def entry (files : Files) (p : Path) : Except IoFailure Node :=
  match files.locate .entry p with
  | .error e => .error e
  | .ok (.absent _) => .error .notFound
  | .ok (.found _ node) => .ok node

/-- The path without links and dots that leads to the same place. -/
def canonical (files : Files) (p : Path) : Except IoFailure Path :=
  (files.status p).map fun (names, _) => Path.ofNames names

def present (files : Files) (p : Path) : Bool :=
  match files.status p with
  | .ok _ => true
  | .error _ => false

def isDirectory (files : Files) (p : Path) : Bool :=
  match files.status p with
  | .ok (_, node) => node.isDirectory
  | .error _ => false

def read (files : Files) (p : Path) : Except IoFailure Bytes :=
  match files.status p with
  | .error e => .error e
  | .ok (_, .file content _) => .ok content
  | .ok _ => .error .isDirectory

def readText (files : Files) (p : Path) : Except IoFailure String :=
  match files.read p with
  | .error e => .error e
  | .ok content =>
    match Utf8.decodeString? content with
    | some text => .ok text
    | none => .error .invalidText

def put (files : Files) (names : List Bytes) (node : Node) : Files :=
  { files with root := Node.set node names files.root }

def plant (files : Files) (names : List Bytes) (node : Node) : Files :=
  { files with root := Node.plant node names files.root }

/-- Write a file, over what it held or as a new one. -/
def write (files : Files) (p : Path) (content : Bytes) : Except IoFailure Files :=
  match files.locate .output p with
  | .error e => .error e
  | .ok (.found _ (.directory _)) => .error .isDirectory
  | .ok (.found names (.file _ x)) => .ok (files.put names (.file content x))
  | .ok (.found _ (.link _)) => .error .tooManyLinks
  | .ok (.absent names) => .ok (files.put names (.file content false))

def makeDirectory (files : Files) (p : Path) : Except IoFailure Files :=
  match files.locate .room p with
  | .error e => .error e
  | .ok (.found ..) => .error .alreadyExists
  | .ok (.absent names) => .ok (files.put names (.directory []))

/-- Make a directory and those above it that are missing. -/
def makeDirectories (files : Files) : Nat → Path → Except IoFailure Files
  | 0, _ => .error .notFound
  | fuel + 1, p =>
    if p.isEmpty then .ok files
    else match files.makeDirectory p with
      | .ok files => .ok files
      | .error e =>
        if e = .notFound then
          match p.parent with
          | none => .error (.custom "failed to create whole tree")
          | some above =>
            match makeDirectories files fuel above with
            | .error e => .error e
            | .ok files =>
              match files.makeDirectory p with
              | .ok files => .ok files
              | .error e => if files.isDirectory p then .ok files else .error e
        else if files.isDirectory p then .ok files else .error e

end Files

end LookupBench
