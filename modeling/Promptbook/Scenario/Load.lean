import Promptbook.Layered.Record
import Promptbook.Scenario.Basic
import Promptbook.Scenario.Failure

/-!
# Documents from texts and files
-/

namespace Promptbook

open Record

/-- The source of a text that comes from no file. -/
def inlineSource : String := "<inline>"

/-- What may stand at a path: a file or a directory. -/
inductive Entry where
  | file (bytes : List UInt8)
  | directory
  deriving DecidableEq, Repr

/-- How many bytes the name of a file may have. -/
def nameLimit : Nat := 255

/-- The text of a file with a name, and with the path for messages. -/
def Entry.text (path name : String) : Option Entry → Except DocumentFault String
  | none =>
    .error (if nameLimit < name.utf8ByteSize then .nameTooLong path else .notFound path)
  | some .directory => .error (.isDirectory path)
  | some (.file bytes) =>
    match Utf8.decode bytes with
    | .ok text => .ok text
    | .error fault => .error (.notText fault)

/-- What was read from a source. -/
def fromSource {τ : Type} (source : String) : Checked τ → Except Failure τ
  | .ok t => .ok t
  | .error ps => .error (.ofProblems source ps)

/-- What a reader finds in the file at a path, whose last part is its name. -/
def load {τ : Type} (read : String → Checked τ) (path name : String) (entry : Option Entry) :
    Except Failure τ :=
  if '\x00' ∈ path.toList then .error .zeroInPath
  else match Entry.text path name entry with
    | .ok text => fromSource name (read text)
    | .error fault => .error (.unreadable ⟨name, fault⟩)

/-- The scenario in a text. -/
def Scenario.ofText (source text : String) : Except Failure Scenario :=
  fromSource source (decode text)

/-- The layered beats in a text. -/
def readLayeredBeats : String → Checked (List (LayeredBeat Float)) :=
  (Shape.list LayeredBeat.shape).readDocument

/-- The characters in a text. -/
def readCharacters : String → Checked (List Character) :=
  (Shape.list Character.shape).readDocument

end Promptbook
