import LookupBench.Files.Tree
import LookupBench.Location
import LookupBench.Random.Generator
import LookupBench.Source.Occurrence

/-!
# Cases

A case is one place in one file, the same question for every server: what is the definition of the
token that stands here? It is drawn at random from the occurrences in the file; those of imported
names are preferred, since their definitions are likely in other files.
-/

namespace LookupBench

structure Case where
  file : Path
  uri : String
  position : Position
  token : String
  lineText : String
  kind : OccurrenceKind
  deriving DecidableEq, Repr

/-- Why nothing could be sampled. -/
inductive SamplingFailure where
  | noSources (root : Path)
  | noOccurrences (file : Path)
  | exhausted (attempts : Nat) (last : String)
  | unreadable (path : Path) (cause : IoFailure)
  deriving DecidableEq, Repr

def SamplingFailure.message : SamplingFailure → String
  | noSources root => "no source files found under " ++ root.display
  | noOccurrences file => "no identifier tokens found in " ++ file.display
  | exhausted attempts last =>
    "failed to pick a usable symbol after " ++ Decimal.natText attempts ++ " files; last error: "
      ++ last
  | unreadable path cause => path.display ++ ": " ++ cause.message

namespace Case

/-- The occurrences to draw from: those of imported names, if there are any. -/
def preferred (found : List Occurrence) : List Occurrence :=
  let imported := found.filter (·.kind.isImported)
  if imported.isEmpty then found else imported

/-- Whether a text has the line of an occurrence. -/
def hasLine (text : List Char) (o : Occurrence) : Bool :=
  1 ≤ o.line && o.line ≤ (linesOf text).length

/-- The occurrences on lines that a text has. -/
def candidates (text : List Char) : List Occurrence :=
  (Source.occurrences text).filter (hasLine text)

/-- The case of an occurrence in a file. -/
def ofOccurrence (files : Files) (file : Path) (text : List Char) (o : Occurrence) : Case where
  file
  uri := Uri.ofPath files file
  position := ⟨(o.line : Int) - 1, o.column⟩
  token := o.token
  lineText := String.ofList ((linesOf text)[o.line - 1]?.getD [])
  kind := o.kind

/-- Draw a case from a file. -/
def fromFile (files : Files) (file : Path) (g : Random.Generator) :
    Except SamplingFailure Case × Random.Generator :=
  match files.read file with
  | .error cause => (.error (.unreadable file cause), g)
  | .ok content =>
    let text := Utf8.decodeLossy content
    match g.choose (preferred (candidates text)) with
    | (none, g) => (.error (.noOccurrences file), g)
    | (some o, g) => (.ok (ofOccurrence files file text o), g)

end Case

end LookupBench
