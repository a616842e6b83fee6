import LookupBench.Files.Tree
import LookupBench.Wire

/-!
# Hosts

Where servers run: a tree of files, some of which are programs, and the directories that commands
are looked for in.
-/

namespace LookupBench

structure Host where
  files : Files
  /-- Executable files that are programs, by their canonical paths. -/
  programs : List (Path × Program)
  /-- Where a command is looked for that is no more than a name. -/
  searchPath : List Path := []

namespace Host

def isExecutable (files : Files) (p : Path) : Bool :=
  match files.status p with
  | .ok (_, .file _ executable) => executable
  | _ => false

/-- How many components a path has; the root is one, and so is a leading dot. -/
def depth (p : Path) : Nat := p.components.length + (if p.isAbsolute then 1 else 0)

/-- The executable file that a command stands for, as a canonical path. -/
def resolve (host : Host) (command : String) : Option Path :=
  let p := Path.ofString command
  let candidates := if 1 < depth p then [p] else host.searchPath.map (·.join p)
  (candidates.find? (isExecutable host.files)).map fun found =>
    match host.files.canonical found with
    | .ok canonical => canonical
    | .error _ => found

/-- The interpreter that the first line of a script names. -/
def interpreter? : Bytes → Option Path
  | 35 :: 33 :: rest =>
    let isBlank (b : UInt8) : Bool := b = 32 || b = 9
    let line := (rest.takeWhile (· ≠ 10)).dropWhile isBlank
    let path := line.takeWhile fun b => !isBlank b
    if path.isEmpty then none else some path
  | _ => none

/-- Why an executable file that is none of the programs does not run. -/
def refusal (files : Files) (content : Bytes) : IoFailure :=
  match interpreter? content with
  | none => .notExecutable
  | some p =>
    match files.status p with
    | .error cause => cause
    | .ok (_, .file _ true) => .notExecutable
    | .ok _ => .denied

def nulInArgument : IoFailure := .custom "nul byte found in provided data"

/-- Start a program in a directory. -/
def start (host : Host) (program : Path) (args : List String) (directory : Path) :
    Except IoFailure (Process × List Effect) := do
  if program.contains 0 || args.any (fun a => a.toList.contains (Char.ofNat 0))
      || directory.contains 0 then
    throw nulInArgument
  let (current, _) ← host.files.status directory
  let files := { host.files with current }
  let p := if program.contains Path.slash then program
    else ((host.searchPath.map (·.join program)).find? (isExecutable files)).getD []
  let (names, node) ← files.status p
  match node with
  | .file content true =>
    match host.programs.find? fun entry => entry.1 = Path.ofNames names with
    | some (_, program) => return program.start args
    | none => throw (refusal files content)
  | _ => throw .denied

/-- The number that stands for the process of this program. -/
def processId : Nat := 1

/-- Start a server and a client for it. -/
def connect (host : Host) (name : String) (program : Path) (args : List String) (root : Path)
    (trace : Bool) : Except ClientFailure (Wire × Client) :=
  match host.start program args root with
  | .error cause => .error (.spawn name program.display cause)
  | .ok (process, effects) =>
    .ok (.ofProcess process effects, { name, root, trace, processId })

end Host

end LookupBench
