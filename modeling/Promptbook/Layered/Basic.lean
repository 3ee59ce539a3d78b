import Promptbook.Beat.Basic
import Promptbook.Layered.Words

/-!
# Layered beats

The same dramatic unit as an author edits it: a location, and lines, gestures and walks in three
layers, each entry with its own start in seconds from the start of the beat.
-/

namespace Promptbook

/-- One line of the dialogue layer. -/
structure LineEntry (α : Type) where
  id : Spelling
  characterId : Spelling
  characterName : Spelling
  text : Spelling
  tone : Tone
  start : α
  gesture : Option LineGesture
  deriving DecidableEq, Repr

/-- One gesture of the action layer. -/
structure GestureEntry (α : Type) where
  id : Spelling
  characterId : Spelling
  gesture : StageGesture
  start : α
  lineId : Option Spelling
  deriving DecidableEq, Repr

/-- One entry of the movement layer.  Without an origin the character appears at the target. -/
structure WalkEntry (α : Type) where
  id : Spelling
  characterId : Spelling
  origin : Option (Place α)
  target : Place α
  start : α
  finish : α
  walks : Bool
  lineId : Option Spelling
  deriving DecidableEq, Repr

/-- One dramatic unit in independently timed layers.  Without a duration it lasts as long as its
layers take. -/
structure LayeredBeat (α : Type) where
  id : Spelling
  name : Spelling
  duration : Option α
  location : Location
  lines : List (LineEntry α)
  gestures : List (GestureEntry α)
  walks : List (WalkEntry α)
  deriving DecidableEq, Repr

variable {α : Type} [Measure α]

namespace LineEntry

/-- The seconds that a line takes in playback: they grow with its length, at 1.3 times the typing
speed, and are never fewer than 1.2. -/
def playback (l : LineEntry α) : α :=
  Measure.sup ((Measure.ofNat l.text.length * 0.15 + 1.0) / 1.3) 1.2

/-- The second by which a line has been read. -/
def finish (l : LineEntry α) : α :=
  l.start + Measure.sup (Measure.ofNat l.text.length * 0.15) 1.5

end LineEntry

namespace WalkEntry

/-- The seconds from the start of an entry to its end. -/
def length (w : WalkEntry α) : α := w.finish - w.start

/-- Where an entry begins when nothing earlier is known. -/
def startPlace (w : WalkEntry α) : Place α := w.origin.getD w.target

/-- The place in the middle of the editor's canvas. -/
def canvasCenter : Place α := ⟨0.5, 0.6⟩

/-- Where an entry begins when the character stood at a known place before. -/
def originAfter (w : WalkEntry α) (previous : Option (Place α)) : Place α :=
  w.origin.getD (previous.getD canvasCenter)

end WalkEntry

namespace LayeredBeat

/-- The ids of all entries: dialogue first, then actions, then movements. -/
def mentioned (b : LayeredBeat α) : List Spelling :=
  b.lines.map (·.characterId) ++ b.gestures.map (·.characterId) ++ b.walks.map (·.characterId)

/-- The ids of the characters in a beat, each once, in the order of first mention. -/
def involved (b : LayeredBeat α) : List Spelling := b.mentioned.eraseDups

/-- The seconds that the layers take: until the last line is read or the last movement is two
seconds old, and never fewer than three. -/
def estimate (b : LayeredBeat α) : α :=
  Measure.largest usualDuration (b.lines.map (·.finish) ++ b.walks.map fun w => w.start + 2.0)

/-- The duration of a beat: the authored one, or else the estimate. -/
def effectiveDuration (b : LayeredBeat α) : α := b.duration.getD b.estimate

/-- When a line starts that follows all lines, one after the other. -/
def nextLineStart (b : LayeredBeat α) : α := Measure.total (b.lines.map (·.playback))

end LayeredBeat

end Promptbook
