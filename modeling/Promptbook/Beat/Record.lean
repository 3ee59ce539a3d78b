import Promptbook.Beat.Basic
import Promptbook.Cast.Record

/-!
# Beats in documents
-/

namespace Promptbook

open Record

/-- A movement in a document. -/
def Movement.shape : Shape .value (Movement Float) :=
  .record
    (.field "type" (.choice MovementKind) none <|
      .field ⟨"from", "from_"⟩ (.optional Place.shape) (some none) <|
      .field "to" (.optional Place.shape) (some none) <|
      .field "speed" (.choice Speed) (some .normal) <|
      .done) {
    pack := fun (kind, origin, target, speed, ()) => ⟨kind, origin, target, speed⟩
    unpack := fun m => (m.kind, m.origin, m.target, m.speed, ()) }

/-- An emotion in a document. -/
def Emotion.shape : Shape .value (Emotion Float) :=
  .record
    (.field "type" (.choice Mood) none <|
      .field "intensity" (.number .share) (some 0.5) <|
      .done) {
    pack := fun (mood, intensity, ()) => ⟨mood, intensity⟩
    unpack := fun e => (e.mood, e.intensity, ()) }

/-- A gesture in a document. -/
def Gesture.shape : Shape .value Gesture :=
  .record
    (.field "type" (.choice GestureKind) none <|
      .field "target" (.optional .text) (some none) <|
      .done) {
    pack := fun (kind, target, ()) => ⟨kind, target⟩
    unpack := fun g => (g.kind, g.target, ()) }

/-- A part in a document. -/
def Part.shape : Shape .value (Part Float) :=
  .record
    (.field ⟨"characterId", "character_id"⟩ .text none <|
      .field ⟨"characterName", "character_name"⟩ .text none <|
      .field "gender" (.choice Gender) none <|
      .field "movement" Movement.shape none <|
      .field "emotion" Emotion.shape none <|
      .field "gesture" (.optional Gesture.shape) (some none) <|
      .field ⟨"facingDirection", "facing_direction"⟩ (.choice Facing) (some .center) <|
      .field "voice" (.optional Voice.shape) (some none) <|
      .done) {
    pack := fun (characterId, name, gender, movement, emotion, gesture, facing, voice, ()) =>
      ⟨characterId, name, gender, movement, emotion, gesture, facing, voice⟩
    unpack := fun p => (p.characterId, p.name, p.gender, p.movement, p.emotion, p.gesture,
      p.facing, p.voice, ()) }

/-- A line in a document. -/
def Line.shape : Shape .value (Line Float) :=
  .record
    (.field "id" .text (some freshId) <|
      .field ⟨"characterId", "character_id"⟩ .text none <|
      .field "text" .text none <|
      .field "emotion" (.choice Mood) (some .neutral) <|
      .field "delay" (.number .time) (some 0.0) <|
      .field ⟨"typingSpeed", "typing_speed"⟩ (.integer (some 0)) (some usualTypingSpeed) <|
      .done) {
    pack := fun (id, characterId, text, mood, delay, typingSpeed, ()) =>
      ⟨id, characterId, text, mood, delay, typingSpeed⟩
    unpack := fun l => (l.id, l.characterId, l.text, l.mood, l.delay, l.typingSpeed, ()) }

/-- A backdrop in a document. -/
def Backdrop.shape : Shape .value Backdrop :=
  .record
    (.field "type" (.choice Scenery) none <|
      .field ⟨"resourceName", "resource_name"⟩ (.optional .text) (some none) <|
      .field "transition" (.choice Transition) (some .cut) <|
      .done) {
    pack := fun (scenery, resource, transition, ()) => ⟨scenery, resource, transition⟩
    unpack := fun b => (b.scenery, b.resource, b.transition, ()) }

/-- The light in a document. -/
def Lighting.shape : Shape .value (Lighting Float) :=
  .record
    (.field "brightness" (.number .share) (some 1.0) <|
      .field "color" (.choice LightColor) (some .white) <|
      .field "spotlight" (.optional .text) (some none) <|
      .done) {
    pack := fun (brightness, color, spotlight, ()) => ⟨brightness, color, spotlight⟩
    unpack := fun l => (l.brightness, l.color, l.spotlight, ()) }

/-- A single sound in a document. -/
def SoundCue.shape : Shape .value (SoundCue Float) :=
  .record
    (.field "type" (.choice SoundKind) none <|
      .field "volume" (.number .share) (some 0.5) <|
      .field "delay" (.number .time) (some 0.0) <|
      .done) {
    pack := fun (kind, volume, delay, ()) => ⟨kind, volume, delay⟩
    unpack := fun c => (c.kind, c.volume, c.delay, ()) }

/-- The sound in a document. -/
def Sound.shape : Shape .value (Sound Float) :=
  .record
    (.field "bgm" (.optional .text) (some none) <|
      .field ⟨"soundEffects", "sound_effects"⟩ (.list SoundCue.shape) (some []) <|
      .done) {
    pack := fun (music, cues, ()) => ⟨music, cues⟩
    unpack := fun s => (s.music, s.cues, ()) }

/-- The layers of a beat in a document. -/
def Layers.shape : Shape .value (Layers Float) :=
  .record
    (.field "characters" (.list Part.shape) (some []) <|
      .field "background" (.optional Backdrop.shape) (some none) <|
      .field "lighting" (.optional Lighting.shape) (some none) <|
      .field "sound" (.optional Sound.shape) (some none) <|
      .field "dialogues" (.list Line.shape) (some []) <|
      .done) {
    pack := fun (parts, backdrop, lighting, sound, lines, ()) =>
      ⟨parts, backdrop, lighting, sound, lines⟩
    unpack := fun l => (l.parts, l.backdrop, l.lighting, l.sound, l.lines, ()) }

/-- A beat in a document. -/
def Beat.shape : Shape .value (Beat Float) :=
  .record
    (.field "id" .text none <|
      .field "name" .text none <|
      .field "description" .text (some "") <|
      .field "duration" (.number .duration) (some usualDuration) <|
      .field "layers" Layers.shape (some .empty) <|
      .done) {
    pack := fun (id, name, description, duration, layers, ()) =>
      ⟨id, name, description, duration, layers⟩
    unpack := fun b => (b.id, b.name, b.description, b.duration, b.layers, ()) }

end Promptbook
