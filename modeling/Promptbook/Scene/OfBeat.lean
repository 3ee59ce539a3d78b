import Promptbook.Scene.Basic
import Promptbook.Scene.Handles
import Promptbook.Stage.Landmark
import Promptbook.Stage.Size

/-!
# Scenes from beats

A beat becomes a scene on a stage of a given size.  Only a time without end keeps a beat from
becoming one, since milliseconds are whole numbers.
-/

namespace Promptbook

namespace Part

/-- Where a part is shown: where it stays, or else where it is led to. -/
def shownAt {α : Type} [Measure α] (p : Part α) : Place α :=
  match p.movement.kind with
  | .stay => p.movement.origin.getD Landmark.center.place
  | .exit => p.movement.target.getD Landmark.offStageRight.place
  | _ => p.movement.target.getD Landmark.center.place

/-- Whether a part is shown walking. -/
def walks {α : Type} (p : Part α) : Bool :=
  match p.movement.kind with
  | .enter | .move => true
  | _ => false

/-- The animation of a part: that of its gesture, or that of walking, or that of its mood. -/
def animation {α : Type} (p : Part α) : Animation :=
  match p.gesture.bind (·.kind.animation?) with
  | some animation => animation
  | none => if p.walks then .walking else p.emotion.mood.idle

variable {η : Type}

/-- The figure of a part. -/
def figure (h : Handles η) (size : StageSize) (p : Part Float) : Figure η :=
  let (x, y) := p.shownAt.scaled size.width size.height
  { id := p.characterId
    name := p.name
    gender := p.gender
    image := h.handle (p.gender.picture .idle 1)
    position := ⟨x, y⟩
    size := 80.0
    alpha := if p.movement.kind = .exit then 0.3 else 1.0
    scale := 1.0
    rotation := 0.0
    flipped := p.facing = .left
    animation := p.animation
    animationMillis := p.movement.speed.millis
    voice := p.voice.getD .usual
    description := none }

end Part

/-- A time in whole milliseconds, cut towards zero. -/
def millis (seconds : Float) : Except Double.NonFinite Int := Double.truncate (seconds * 1000.0)

variable {η : Type}

/-- The figure of a speaker. -/
def speaker? (figures : List (Figure η)) (id : Spelling) : Option (Figure η) :=
  figures.find? fun c => c.id == id

/-- Where a bubble stands: above its speaker, or at a fixed place when the speaker is absent. -/
def bubblePoint : Option (Figure η) → Point
  | some c => ⟨c.position.x + 40.0, c.position.y + -60.0⟩
  | none => ⟨180.0, 100.0⟩

/-- The bubble of a line among the figures of its scene. -/
def Line.bubble (figures : List (Figure η)) (l : Line Float) : Except Double.NonFinite Bubble :=
  (millis l.delay).map fun delay =>
    let speaker := speaker? figures l.characterId
    { text := l.text
      position := bubblePoint speaker
      speaker := speaker.map (·.name)
      delayMillis := delay
      typingSpeed := l.typingSpeed
      voice := speaker.map (·.voice) }

/-- The scene of a beat. -/
def Beat.scene (h : Handles η) (size : StageSize) (b : Beat Float) :
    Except Double.NonFinite (Scene η) := do
  let figures := b.layers.parts.map (·.figure h size)
  let bubbles ← b.layers.lines.mapM (·.bubble figures)
  let duration ← millis b.duration
  return {
    backdrop := h.handle (Backdrop.picture b.layers.backdrop)
    figures := figures
    bubbles := bubbles
    durationMillis := duration
    isEnding := false }

/-- The script of some beats in order. -/
def Script.ofBeats (h : Handles η) (size : StageSize) (debug : Bool) (bs : List (Beat Float)) :
    Except Double.NonFinite (Script η) :=
  (bs.mapM (Beat.scene h size)).map fun scenes => ⟨scenes, debug⟩

end Promptbook
