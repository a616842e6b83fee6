import LookupBench.Tool
import Std.Time.DateTime.Timestamp

/-!
# The program

Takes a copy of the files that its arguments are about, does with them what the tool does, and
writes the file that comes of it. The one server that it can start is the stub, which is part of it.
-/

namespace LookupBench.Disk

/-- The contents that may be looked at: those of sources. -/
def isSource (name : String) : Bool := Path.hasExtension sourceExtension (Path.ofString name)

def readBytes (path : String) : IO Bytes := do return (← IO.FS.readBinFile path).toList

def kindOf (path : String) : IO IO.FS.FileType := do
  return (← (← IO.FS.realPath path).metadata).type

/-- A copy of all that is at a path and below it. What cannot be read is left out. -/
partial def copy (path : String) : IO Node := do
  match ← kindOf path with
  | .dir =>
    let mut entries : List (Bytes × Node) := []
    for entry in ← (← IO.FS.realPath path).readDir do
      let name := Path.ofString entry.fileName
      let inner := path ++ "/" ++ entry.fileName
      try
        if (← entry.path.symlinkMetadata).type matches .symlink then
          let target := (← IO.FS.realPath inner).toString
          entries := (name, .link (Path.ofString target)) :: entries
        else entries := (name, ← copy inner) :: entries
      catch _ => pure ()
    return .directory entries.reverse
  | _ => return .file (← if isSource path then readBytes path else pure []) false

/-- Add a copy of what is at a path. -/
def addTree (files : Files) (path : Path) : IO Files := do
  try
    let real := (← IO.FS.realPath path.display).toString
    return files.plant (Path.ofString real).components (← copy real)
  catch _ => return files

/-- Add a file with what it holds. -/
def addFile (files : Files) (path : Path) : IO Files := do
  try
    let real := (← IO.FS.realPath path.display).toString
    let node ← match ← kindOf real with
      | .dir => pure (Node.directory [])
      | _ => pure (Node.file (← readBytes real) false)
    return files.plant (Path.ofString real).components node
  catch _ => return files

/-- The files that options are about. -/
def filesFor (options : Options) : IO Files := do
  let current := Path.ofString (← IO.currentDir).toString
  let empty : Files := { root := .directory [], current := current.components }
  let files := empty.plant current.components (.directory [])
  let named := options.config.toList ++ options.exampleAt.toList
  let files ← named.foldlM addFile files
  let root := match options.config.map (Config.load files) with
    | some (.ok config) => config.root
    | _ => Path.ofString "."
  named.foldlM addFile (← addTree files (options.root.getD root))

/-- Write a file of a tree to the disk, with the directories that it needs. -/
def store (files : Files) (path : Path) : IO Unit := do
  match files.read path with
  | .error _ => return
  | .ok content =>
    match path.parent with
    | some above => unless above.isEmpty do IO.FS.createDirAll above.display
    | none => pure ()
    IO.FS.writeBinFile path.display (ByteArray.mk content.toArray)

end LookupBench.Disk

open LookupBench in
/-- The program. -/
def main (args : List String) : IO UInt32 := do
  let files ← match Options.ofArguments args with
    | .ok options => Disk.filesFor options
    | .error _ => pure default
  let stub := Path.ofString "/stub-lsp"
  let host : Host :=
    { files := files.plant stub.components (.file [] true)
      programs := [(stub, .stub)]
      searchPath := [Path.ofString "/"] }
  let seed ← IO.rand 0 0xffffffffffffffff
  let now := (← Std.Time.Timestamp.now).toNanosecondsSinceUnixEpoch.val
  let done := Tool.run host seed.toUInt64 (.ofRatio false now.toNat Duration.perSecond) args
  (← IO.getStdout).putStr done.output
  (← IO.getStderr).putStr done.errors
  if let some path := done.written then Disk.store done.files path
  return done.code.toUInt32
