import LookupBench.Json.Reader
import LookupBench.Json.Text
import LookupBench.Results.ReportData

/-!
# Report files

A report is written as indented JSON; the directories on the way to it are made.
-/

namespace LookupBench

inductive ReportFailure where
  | file (path : Path) (cause : IoFailure)
  | data (cause : Json.Failure)

def ReportFailure.message : ReportFailure → String
  | file path cause => path.display ++ ": " ++ cause.message
  | data cause => cause.message

namespace Report

def text (r : Report) : String := r.toJson.indentedText

/-- The report that a text holds. -/
def ofBytes (content : Bytes) : Except Json.Failure Report :=
  (Json.read shape content).map ofData

/-- Make the directories that a path needs. -/
def makeRoom (files : Files) (p : Path) : Except IoFailure Files :=
  match p.parent with
  | some above => if above.isEmpty then .ok files else files.makeDirectories p.length above
  | none => .ok files

def write (files : Files) (p : Path) (r : Report) : Except ReportFailure Files :=
  match makeRoom files p with
  | .error cause => .error (.file p cause)
  | .ok files =>
    match files.write p (Utf8.encode r.text) with
    | .error cause => .error (.file p cause)
    | .ok files => .ok files

def read (files : Files) (p : Path) : Except ReportFailure Report :=
  match files.readText p with
  | .error cause => .error (.file p cause)
  | .ok content =>
    match ofBytes (Utf8.encode content) with
    | .error cause => .error (.data cause)
    | .ok r => .ok r

end Report

end LookupBench
