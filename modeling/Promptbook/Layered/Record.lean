import Promptbook.Layered.Basic
import Promptbook.Stage.Record

/-!
# Layered beats in documents

Each layer of a layered beat is an object of its own with a single field.
-/

namespace Promptbook

open Record

/-- An object whose single field is a value. -/
def Record.Shape.wrapped {τ : Type} (key : Key) (s : Shape .value τ) (default : τ) :
    Shape .value τ :=
  .record (.field key s (some default) .done) {
    pack := fun (t, ()) => t
    unpack := fun t => (t, ()) }

/-- A line of the dialogue layer in a document. -/
def LineEntry.shape : Shape .value (LineEntry Float) :=
  .record
    (.field "id" .text (some freshId) <|
      .field ⟨"characterId", "character_id"⟩ .text none <|
      .field ⟨"characterName", "character_name"⟩ .text none <|
      .field "text" .text none <|
      .field "emotion" (.choice Tone) (some .calm) <|
      .field ⟨"startTime", "start_time"⟩ (.number .time) (some 0.0) <|
      .field "action" (.optional (.choice LineGesture)) (some none) <|
      .done) {
    pack := fun (id, characterId, characterName, text, tone, start, gesture, ()) =>
      ⟨id, characterId, characterName, text, tone, start, gesture⟩
    unpack := fun l => (l.id, l.characterId, l.characterName, l.text, l.tone, l.start,
      l.gesture, ()) }

/-- A gesture of the action layer in a document. -/
def GestureEntry.shape : Shape .value (GestureEntry Float) :=
  .record
    (.field "id" .text (some freshId) <|
      .field ⟨"characterId", "character_id"⟩ .text none <|
      .field ⟨"actionType", "action_type"⟩ (.choice StageGesture) none <|
      .field ⟨"startTime", "start_time"⟩ (.number .time) (some 0.0) <|
      .field ⟨"linkedDialogueId", "linked_dialogue_id"⟩ (.optional .text) (some none) <|
      .done) {
    pack := fun (id, characterId, gesture, start, lineId, ()) =>
      ⟨id, characterId, gesture, start, lineId⟩
    unpack := fun g => (g.id, g.characterId, g.gesture, g.start, g.lineId, ()) }

/-- The law of a walk: it does not end before it starts. -/
def WalkEntry.law (w : WalkEntry Float) : Option Fault :=
  if w.finish < w.start then some (.endsEarly w.finish w.start) else none

/-- A walk of the movement layer in a document. -/
def WalkEntry.shape : Shape .value (WalkEntry Float) :=
  .record
    (.field "id" .text (some freshId) <|
      .field ⟨"characterId", "character_id"⟩ .text none <|
      .field ⟨"fromPosition", "from_position"⟩ (.optional Place.canvasShape) (some none) <|
      .field ⟨"toPosition", "to_position"⟩ Place.canvasShape none <|
      .field ⟨"startTime", "start_time"⟩ (.number .time) (some 0.0) <|
      .field ⟨"endTime", "end_time"⟩ (.number .time) (some 1.0) <|
      .field ⟨"autoWalk", "auto_walk"⟩ .flag (some true) <|
      .field ⟨"linkedDialogueId", "linked_dialogue_id"⟩ (.optional .text) (some none) <|
      .done) {
    pack := fun (id, characterId, origin, target, start, finish, walks, lineId, ()) =>
      ⟨id, characterId, origin, target, start, finish, walks, lineId⟩
    unpack := fun w => (w.id, w.characterId, w.origin, w.target, w.start, w.finish, w.walks,
      w.lineId, ())
    law := WalkEntry.law }

namespace LayeredBeat

/-- The location layer in a document. -/
def locationShape : Shape .value Location :=
  .wrapped "location" (.choice Location) .stageFloor

/-- The dialogue layer in a document. -/
def linesShape : Shape .value (List (LineEntry Float)) :=
  .wrapped "dialogues" (.list LineEntry.shape) []

/-- The action layer in a document. -/
def gesturesShape : Shape .value (List (GestureEntry Float)) :=
  .wrapped "actions" (.list GestureEntry.shape) []

/-- The movement layer in a document. -/
def walksShape : Shape .value (List (WalkEntry Float)) :=
  .wrapped "movements" (.list WalkEntry.shape) []

/-- A layered beat in a document. -/
def shape : Shape .value (LayeredBeat Float) :=
  .record
    (.field "id" .text none <|
      .field "name" .text none <|
      .field "duration" (.optional (.number .duration)) (some none) <|
      .field ⟨"locationLayer", "location_layer"⟩ locationShape (some .stageFloor) <|
      .field ⟨"dialogueLayer", "dialogue_layer"⟩ linesShape (some []) <|
      .field ⟨"actionLayer", "action_layer"⟩ gesturesShape (some []) <|
      .field ⟨"movementLayer", "movement_layer"⟩ walksShape (some []) <|
      .done) {
    pack := fun (id, name, duration, location, lines, gestures, walks, ()) =>
      ⟨id, name, duration, location, lines, gestures, walks⟩
    unpack := fun b => (b.id, b.name, b.duration, b.location, b.lines, b.gestures, b.walks, ()) }

end LayeredBeat

end Promptbook
