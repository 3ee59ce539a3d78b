import Promptbook.Beat.Record
import Promptbook.Json.Display
import Promptbook.Json.Written
import Promptbook.Layered.OfBeat

/-!
# Scenarios

A scenario is a collection of beats with their characters.  Its tag tells whether the beats were
written as such or flattened from layered beats.
-/

namespace Promptbook

open Record

/-- How the beats of a scenario came about. -/
inductive Origin where
  | beat
  | layeredBeat
  deriving DecidableEq, Repr

instance : Vocabulary Origin where
  title := "type"
  all := [.beat, .layeredBeat]
  word
    | .beat => "beat"
    | .layeredBeat => "layered_beat"
  mem_all t := by cases t <;> decide
  nodup := by decide

/-- What a scenario holds. -/
structure Contents where
  description : Spelling
  beats : List (Beat Float)
  characters : List Character
  deriving DecidableEq, Repr

/-- A scenario: its contents and its tag. -/
structure Scenario extends Contents where
  origin : Origin
  deriving DecidableEq, Repr

namespace Contents

/-- The fields of the contents in a document, in front of further ones.  Beats and characters may
also stand there as texts that hold the lists. -/
def fields {σ : Type} (rest : Shape .members σ) :
    Shape .members (Spelling × List (Beat Float) × List Character × σ) :=
  .field "description" .text (some "") <|
  .field "beats" (.embedded (.list Beat.shape)) (some []) <|
  .field "characters" (.embedded (.list Character.shape)) (some []) rest

/-- The contents in a document without a tag. -/
def shape : Shape .value Contents :=
  .record (fields .done) {
    pack := fun (description, beats, characters, ()) => ⟨description, beats, characters⟩
    unpack := fun c => (c.description, c.beats, c.characters, ()) }

/-- The contents under a tag in a document. -/
def taggedShape (o : Origin) : Shape .value Contents :=
  .record (fields (.field "type" (.literal (Vocabulary.word o)) (some ()) .done)) {
    pack := fun (description, beats, characters, (), ()) => ⟨description, beats, characters⟩
    unpack := fun c => (c.description, c.beats, c.characters, (), ()) }

end Contents

namespace Scenario

/-- The origin that a tag tells. -/
def origin? : Json → Option Origin
  | .text s => s.text?.bind (Vocabulary.ofWord? inferInstance)
  | _ => none

/-- The scenario in a document, or all that is wrong with it. -/
def read : Json → Checked Scenario
  | .object ms =>
    match Json.lookup? "type" ms with
    | none => Checked.fail .untagged
    | some tag =>
      match origin? tag with
      | none => Checked.fail
          (.unknownTag tag.shown (Vocabulary.words (inferInstance : Vocabulary Origin)))
      | some o =>
        (Checked.under (.key (Vocabulary.word o)) ((Contents.taggedShape o).read (.object ms))).map
          fun c => ⟨c, o⟩
  | _ => Checked.fail .notObject

/-- A scenario in a document. -/
def write (s : Scenario) : Json := (Contents.taggedShape s.origin).write s.toContents

/-- The scenario in a text, or all that is wrong with it. -/
def decode (text : String) : Checked Scenario :=
  match Json.parse .document text with
  | .ok j => read j
  | .error _ => Checked.fail .invalid

/-- A scenario as a text, indented when a number of spaces is given. -/
def encode (indent : Option Nat) (s : Scenario) : Except Json.Unwritable String :=
  s.write.written indent

/-- The beats of a scenario as layered beats. -/
def layeredBeats (s : Scenario) : List (LayeredBeat Float) :=
  s.beats.map (·.layered s.characters)

end Scenario

end Promptbook
