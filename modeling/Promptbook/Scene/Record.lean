import Promptbook.Beat.Record
import Promptbook.Scene.Basic

/-!
# Scenes in documents

The handles of a written scene are JSON values.  They come from outside and may have any number of
levels, but only so many can be written.
-/

namespace Promptbook

open Record

/-- A point in a document. -/
def Point.shape : Shape .value Point :=
  .record
    (.field "x" (.number .all) none <|
      .field "y" (.number .all) none <|
      .done) {
    pack := fun (x, y, ()) => ⟨x, y⟩
    unpack := fun p => (p.x, p.y, ()) }

/-- A figure in a document. -/
def Figure.shape : Shape .value (Figure Json) :=
  .record
    (.field "id" .text none <|
      .field "name" .text none <|
      .field "gender" (.choice Gender) none <|
      .field ⟨"imageRes", "image_res"⟩ .raw none <|
      .field "position" Point.shape none <|
      .field "size" (.number .all) (some 80.0) <|
      .field "alpha" (.number .share) (some 1.0) <|
      .field "scale" (.number .all) (some 1.0) <|
      .field "rotation" (.number .all) (some 0.0) <|
      .field ⟨"flipX", "flip_x"⟩ .flag (some false) <|
      .field "animation" (.choice Animation) (some .idle) <|
      .field ⟨"animationDuration", "animation_duration"⟩ (.integer none) (some 500) <|
      .field "voice" Voice.shape (some .usual) <|
      .field "description" (.optional .text) (some none) <|
      .done) {
    pack := fun (id, name, gender, image, position, size, alpha, scale, rotation, flipped,
        animation, animationMillis, voice, description, ()) =>
      ⟨id, name, gender, image, position, size, alpha, scale, rotation, flipped, animation,
        animationMillis, voice, description⟩
    unpack := fun c => (c.id, c.name, c.gender, c.image, c.position, c.size, c.alpha, c.scale,
      c.rotation, c.flipped, c.animation, c.animationMillis, c.voice, c.description, ()) }

/-- A bubble in a document. -/
def Bubble.shape : Shape .value Bubble :=
  .record
    (.field "text" .text none <|
      .field "position" Point.shape none <|
      .field ⟨"speakerName", "speaker_name"⟩ (.optional .text) (some none) <|
      .field ⟨"delayMillis", "delay_millis"⟩ (.integer none) (some 0) <|
      .field ⟨"typingSpeedMs", "typing_speed_ms"⟩ (.integer none) (some usualTypingSpeed) <|
      .field "voice" (.optional Voice.shape) (some none) <|
      .done) {
    pack := fun (text, position, speaker, delayMillis, typingSpeed, voice, ()) =>
      ⟨text, position, speaker, delayMillis, typingSpeed, voice⟩
    unpack := fun b => (b.text, b.position, b.speaker, b.delayMillis, b.typingSpeed, b.voice, ()) }

/-- A scene in a document. -/
def Scene.shape : Shape .value (Scene Json) :=
  .record
    (.field ⟨"backgroundRes", "background_res"⟩ .raw (some .null) <|
      .field "characters" (.list Figure.shape) (some []) <|
      .field "dialogues" (.list Bubble.shape) (some []) <|
      .field ⟨"durationMillis", "duration_millis"⟩ (.integer none) (some 3000) <|
      .field ⟨"isEnding", "is_ending"⟩ .flag (some false) <|
      .done) {
    pack := fun (backdrop, figures, bubbles, durationMillis, isEnding, ()) =>
      ⟨backdrop, figures, bubbles, durationMillis, isEnding⟩
    unpack := fun s => (s.backdrop, s.figures, s.bubbles, s.durationMillis, s.isEnding, ()) }

/-- A script in a document. -/
def Script.shape : Shape .value (Script Json) :=
  .record
    (.field "scenes" (.list Scene.shape) (some []) <|
      .field "debug" .flag (some false) <|
      .done) {
    pack := fun (scenes, debug, ()) => ⟨scenes, debug⟩
    unpack := fun s => (s.scenes, s.debug, ()) }

/-- A handle that has too many levels to be written. -/
structure HandleTooDeep where
  levels : Nat
  deriving DecidableEq, Repr

namespace HandleTooDeep

/-- The wording of a handle with too many levels. -/
def message (_ : HandleTooDeep) : String := "Maximum serialization depth exceeded"

/-- How many levels a handle may have that is written. -/
def levelLimit : Nat := 255

/-- The layout of something that holds handles, unless one of them has too many levels. -/
def guard (handles : List Json) (layout : Json) : Except HandleTooDeep Json :=
  match handles.find? fun h => levelLimit < h.levels with
  | some h => .error ⟨h.levels⟩
  | none => .ok layout

end HandleTooDeep

/-- A scene as a document. -/
def Scene.write (s : Scene Json) : Except HandleTooDeep Json :=
  HandleTooDeep.guard s.handles (Scene.shape.write s)

/-- A script as a document. -/
def Script.write (s : Script Json) : Except HandleTooDeep Json :=
  HandleTooDeep.guard (s.scenes.flatMap Scene.handles) (Script.shape.write s)

end Promptbook
