import LookupBench.Files.Tree
import LookupBench.Text.Blank
import LookupBench.Uri.Parse

/-!
# From URIs to paths and back

A server may name a place by a `file` URL or by a bare path; other schemes lead nowhere. A path is
written as a URL through the place it leads to.
-/

namespace LookupBench.Uri

/-- The path that a server's text leads to. A text that is no URL is taken for a path, and so is
one whose scheme has a single letter, which is how paths with a drive letter look. -/
def resolve? (text : String) (toAscii : ToAscii := foldName?) : Option Path :=
  if text.toList.all isBlank then none
  else match parse? text.toList toAscii with
    | some (.other [_]) => some (Utf8.encode text)
    | some uri => uri.path?
    | none => some (Utf8.encode text)

def fileScheme : List Char := "file://".toList

/-- A path as a URL. Octets that a URL cannot hold are escaped. -/
def writePath (p : Path) : List Char :=
  let names := p.components
  let path := if names.isEmpty then [47] else names.flatMap fun n => 47 :: percentEncode n
  fileScheme ++ path.map fun b => Char.ofNat b.toNat

/-- The URL of a path, with links followed when it leads somewhere. A relative path that leads
nowhere is written as it is. -/
def ofPath (files : Files) (p : Path) : String :=
  let whole := match files.canonical p with
    | .ok q => q
    | .error _ => p
  if whole.isAbsolute then String.ofList (writePath whole)
  else String.ofList fileScheme ++ whole.display

end LookupBench.Uri
