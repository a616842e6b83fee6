import LookupBench.Files.Tree
import LookupBench.Number.Parse

/-!
# Discovering sources

The sources under a root are the regular files with the right extension, except below directories
that hold no code of the project itself. Links below the root are not followed. Entries of a
directory are taken in the order of their names, whatever order the tree has them in. A directory
that cannot be read is passed over, and the walk goes on behind it.
-/

namespace LookupBench

/-- Directories that are passed over, in lower case. -/
def excludedDirectories : List String :=
  [".git", ".hg", ".svn", ".venv", "venv", ".tox", "__pycache__", ".mypy_cache", ".pytest_cache",
    ".ruff_cache", "node_modules", "build", "dist", ".eggs", ".idea", ".vscode"]

/-- The extension of sources. -/
def sourceExtension : Bytes := Path.ofString "py"

/-- Whether a directory of this name is passed over. Case does not matter; no character outside
ASCII has one of the letters of these names for its lower case. -/
def isExcludedDirectory (name : Bytes) : Bool :=
  excludedDirectories.contains (String.ofList ((Utf8.decodeLossy name).map lowerAscii))

/-- The order of octets, the first difference deciding. -/
def bytesLe : Bytes → Bytes → Bool
  | [], _ => true
  | _ :: _, [] => false
  | a :: as, b :: bs => a < b || (a = b && bytesLe as bs)

/-- What the entries of a directory hold, in the order of their names. -/
def inNameOrder (found : List (Bytes × List Path)) : List Path :=
  (found.mergeSort fun a b => bytesLe a.1 b.1).flatMap (·.2)

mutual

/-- The sources at or below a node that stands at a path, when some directories cannot be read. -/
def sourcesAt (readable : Path → Bool) (p : Path) : Node → List Path
  | .file .. => if p.hasExtension sourceExtension then [p] else []
  | .link _ => []
  | .directory entries =>
    if readable p then inNameOrder (entrySources readable p entries) else []

/-- The sources of each entry of a directory. -/
def entrySources (readable : Path → Bool) (p : Path) :
    List (Bytes × Node) → List (Bytes × List Path)
  | [] => []
  | (name, node) :: rest =>
    let found := if node.isDirectory && isExcludedDirectory name then []
      else sourcesAt readable (p.join name) node
    (name, found) :: entrySources readable p rest

end

namespace Files

/-- All sources under a root, in order, when some directories cannot be read. The root itself may be
a link to a directory, and its own name is never a reason to pass it over. -/
def sourcesWhere (readable : Path → Bool) (files : Files) (root : Path) : List Path :=
  match files.entry root with
  | .error _ => []
  | .ok (.link _) =>
    match files.status root with
    | .ok (_, .directory entries) => sourcesAt readable root (.directory entries)
    | _ => []
  | .ok node => sourcesAt readable root node

/-- Whether a directory can be read under a path: it is not too long for the system. -/
def isReadable (p : Path) : Bool := p.length < pathLimit

/-- All sources under a root, in order. -/
def sources (files : Files) (root : Path) : List Path := files.sourcesWhere isReadable root

end Files

end LookupBench
