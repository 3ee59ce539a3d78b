import Promptbook.Layered.Basic

/-!
# Taking a beat apart into layers

A beat re-enters editing as a layered beat: each line becomes a line of the dialogue layer, each
movement a walk, and each gesture a gesture of the action layer.
-/

namespace Promptbook

variable {α : Type} [Measure α]

/-- The name of a speaker that a directory does not know. -/
def unknownSpeaker : Spelling := "Unknown"

/-- Where a movement leads from and to.  With a single known place it leads to that one. -/
def Movement.leg? (m : Movement α) : Option (Option (Place α) × Place α) :=
  match m.target with
  | some target => some (m.origin, target)
  | none => m.origin.map fun origin => (none, origin)

namespace Beat

/-- The walk of a part.  An exit takes one second in the last part of the beat, an entry the first
second, and any other change of place the first half. -/
def walk? (b : Beat α) (p : Part α) : Option (WalkEntry α) :=
  let id := b.id ++ ":" ++ p.characterId ++ ":movement"
  match p.movement.kind with
  | .stay => p.movement.origin.map fun place =>
    ⟨id, p.characterId, none, place, 0.0, 0.0, false, none⟩
  | .move | .approach | .retreat => p.movement.leg?.map fun (origin, target) =>
    ⟨id, p.characterId, origin, target, 0.0, b.duration / 2.0, true, none⟩
  | .enter => p.movement.target.map fun target =>
    ⟨id, p.characterId, none, target, 0.0, 1.0, true, none⟩
  | .exit => p.movement.leg?.map fun (origin, target) =>
    let start := b.duration * 0.7
    ⟨id, p.characterId, origin, target, start, start + 1.0, true, none⟩

/-- The entry of the action layer for the gesture of a part. -/
def entryOfGesture? (b : Beat α) (p : Part α) : Option (GestureEntry α) :=
  p.gesture.map fun g =>
    ⟨b.id ++ ":" ++ p.characterId ++ ":action", p.characterId, .ofKind g.kind, 0.0, none⟩

end Beat

/-- A line of a beat as an entry of the dialogue layer. -/
def Line.entry (d : Directory) (l : Line α) : LineEntry α where
  id := l.id
  characterId := l.characterId
  characterName := ((d.lookup? l.characterId).map (·.name)).getD unknownSpeaker
  text := l.text
  tone := .ofMood l.mood
  start := l.delay
  gesture := none

/-- The layers that a beat is taken apart into. -/
def Beat.layered (b : Beat α) (d : Directory) : LayeredBeat α where
  id := b.id
  name := b.name
  duration := some b.duration
  location := .stageFloor
  lines := b.layers.lines.map (·.entry d)
  gestures := b.layers.parts.filterMap b.entryOfGesture?
  walks := b.layers.parts.filterMap b.walk?

end Promptbook
