import Promptbook.Cast.Character
import Promptbook.Cast.Voice
import Promptbook.Stage.Record

/-!
# Characters and voices in documents
-/

namespace Promptbook

open Record

/-- A character in a document. -/
def Character.shape : Shape .value Character :=
  .record
    (.field "id" .text none <|
      .field "name" .text none <|
      .field "gender" (.choice Gender) none <|
      .done) {
    pack := fun (id, name, gender, ()) => ⟨id, name, gender⟩
    unpack := fun c => (c.id, c.name, c.gender, ()) }

/-- A voice in a document. -/
def Voice.shape : Shape .value (Voice Float) :=
  .record
    (.field "pitch" (.number .all) (some 1.0) <|
      .field "speed" (.integer none) (some 80) <|
      .field "duration" (.integer none) (some 50) <|
      .field "volume" (.number .share) (some 0.5) <|
      .field "enabled" .flag (some true) <|
      .done) {
    pack := fun (pitch, speed, duration, volume, enabled, ()) =>
      ⟨pitch, speed, duration, volume, enabled⟩
    unpack := fun v => (v.pitch, v.speed, v.duration, v.volume, v.enabled, ()) }

end Promptbook
