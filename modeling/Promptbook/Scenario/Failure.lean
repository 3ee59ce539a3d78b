import Promptbook.Layered.Flatten
import Promptbook.Number.Double
import Promptbook.Record.Problem
import Promptbook.Stage.Size
import Promptbook.Text.Utf8

/-!
# What can fail

Reading a document, flattening with regard to unknown characters, asking for the size of the stage
and turning times into milliseconds.
-/

namespace Promptbook

/-- Why a file or a text is no document of the kind asked for. -/
inductive DocumentFault where
  | problems (ps : List Record.Problem)
  | notFound (path : String)
  | isDirectory (path : String)
  | nameTooLong (path : String)
  | notText (fault : Utf8.Fault)
  deriving Repr

/-- The wording of an operation on a file that is not there. -/
def notFoundMessage (path : String) : String :=
  "[Errno 2] No such file or directory: " ++ Text.quoted path

/-- The wording of an operation on a directory instead of a file. -/
def isDirectoryMessage (path : String) : String :=
  "[Errno 21] Is a directory: " ++ Text.quoted path

/-- The wording of an operation on a path that leads through a file. -/
def notDirectoryMessage (path : String) : String :=
  "[Errno 20] Not a directory: " ++ Text.quoted path

/-- The wording of an operation on a path with too long a part. -/
def nameTooLongMessage (path : String) : String :=
  "[Errno 36] File name too long: " ++ Text.quoted path

/-- The wording of a document fault. -/
def DocumentFault.message : DocumentFault → String
  | problems ps => "Schema validation failed: " ++ Record.Problem.messages ps
  | notFound path => notFoundMessage path
  | isDirectory path => isDirectoryMessage path
  | nameTooLong path => nameTooLongMessage path
  | notText fault => fault.message

/-- A document that cannot be read, with the name of its source. -/
structure Unreadable where
  source : String
  fault : DocumentFault
  deriving Repr

/-- The wording of a document that cannot be read. -/
def Unreadable.message (u : Unreadable) : String :=
  "Cannot convert scenario '" ++ u.source ++ "'.\n" ++
    "  Cause: " ++ u.fault.message ++ "\n" ++
    "  Check: Is the payload valid JSON with a \"type\" of \"beat\" or \"layered_beat\"?\n" ++
    "  Tip: Re-export the scenario with `beatstage reconcile` or `beatstage template` to get a " ++
    "known-good shape."

/-- Why a conversion fails. -/
inductive Failure where
  | unreadable (u : Unreadable)
  | unknownCharacters (u : UnknownCharacters)
  | badSetting (s : BadSetting)
  /-- A time has no value in milliseconds. -/
  | time (e : Double.NonFinite)
  /-- A text inside a document is nested too deeply to be read. -/
  | tooDeep (m : Json.Malformed)
  /-- A path holds the character of code zero. -/
  | zeroInPath
  deriving Repr

/-- The wording of a failure. -/
def Failure.message : Failure → String
  | unreadable u => u.message
  | unknownCharacters u => u.message
  | badSetting s => s.message
  | time e => e.message
  | tooDeep m => m.message
  | zeroInPath => "embedded null byte"

/-- How problems of a document from a source end its reading: a text that is nested too deeply
ends it at once, and all else is told together. -/
def Failure.ofProblems (source : String) (ps : List Record.Problem) : Failure :=
  match Record.Problem.tooDeep? ps with
  | some m => tooDeep m
  | none => unreadable ⟨source, .problems ps⟩

end Promptbook
