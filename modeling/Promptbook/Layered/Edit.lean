import Promptbook.Layered.Basic
import Promptbook.Record.Problem

/-!
# Editing a layered beat

Each edit makes a new beat, or tells what is wrong with the entry that it would add.  Appended
lines follow one another without gaps, and walks of one character start where the last one ended.
-/

namespace Promptbook

open Record

variable {α : Type} [Measure α]

/-- An edit of a layered beat. -/
inductive Edit (α : Type) where
  | appendLine (speaker : Character) (text : Spelling) (tone : Tone) (gesture : Option LineGesture)
      (id : Option Spelling)
  | removeLine (id : Spelling)
  | addWalk (characterId : Spelling) (target : Place α) (start : α) (origin : Option (Place α))
      (id : Option Spelling)
  | addGesture (characterId : Spelling) (gesture : StageGesture) (start : α)
      (lineId : Option Spelling)
  | setLocation (location : Location)
  | fixDuration
  deriving DecidableEq, Repr

/-- The problem of a time before the start of the beat. -/
def timeProblems (field : String) (t : α) : List Problem :=
  if 0.0 ≤ t then [] else [⟨[.key field], .belowLeast 0.0⟩]

/-- The lines one after the other from a time on. -/
def LineEntry.retime : α → List (LineEntry α) → List (LineEntry α)
  | _, [] => []
  | t, l :: ls => { l with start := t } :: retime (t + l.playback) ls

/-- Of some walks the one that ends last, the earliest of several. -/
def WalkEntry.latest? : List (WalkEntry α) → Option (WalkEntry α)
  | [] => none
  | w :: ws => some (ws.foldl (fun best v => if best.finish < v.finish then v else best) w)

/-- The walk from a known place: it takes the time of the way. -/
def WalkEntry.walking (w : WalkEntry α) (origin : Place α) : WalkEntry α :=
  { w with origin := some origin, finish := w.start + origin.walkTime w.target, walks := true }

namespace LayeredBeat

/-- Adds a line after all lines have been played. -/
def appendLine (b : LayeredBeat α) (speaker : Character) (text : Spelling) (tone : Tone)
    (gesture : Option LineGesture) (id : Option Spelling) : LayeredBeat α :=
  let line : LineEntry α :=
    ⟨id.getD freshId, speaker.id, speaker.name, text, tone, b.nextLineStart, gesture⟩
  { b with lines := b.lines ++ [line] }

/-- Drops the lines with an id and closes the gaps, the others in the order of their starts. -/
def removeLine (b : LayeredBeat α) (id : Spelling) : LayeredBeat α :=
  let others := b.lines.filter fun l => l.id ≠ id
  { b with lines := LineEntry.retime 0.0 (others.mergeSort fun l k => decide ¬ k.start < l.start) }

/-- Where a character stands after its walks. -/
def lastPlace? (b : LayeredBeat α) (characterId : Spelling) : Option (Place α) :=
  (WalkEntry.latest? (b.walks.filter fun w => w.characterId == characterId)).map (·.target)

/-- Adds a walk to a place from the given one, or from where the character stands; one that stands
nowhere appears at the place within a second. -/
def addWalk (b : LayeredBeat α) (characterId : Spelling) (target : Place α) (start : α)
    (origin : Option (Place α)) (id : Option Spelling) : Checked (LayeredBeat α) :=
  let appearing : WalkEntry α :=
    ⟨id.getD freshId, characterId, origin, target, start, start + 1.0, false, none⟩
  let walk := ((origin.or (b.lastPlace? characterId)).map appearing.walking).getD appearing
  match timeProblems "start_time" appearing.start ++ timeProblems "end_time" appearing.finish with
  | [] => .ok { b with walks := b.walks ++ [walk] }
  | ps => .error ps

/-- Adds a gesture. -/
def addGesture (b : LayeredBeat α) (characterId : Spelling) (gesture : StageGesture) (start : α)
    (lineId : Option Spelling) : Checked (LayeredBeat α) :=
  match timeProblems "start_time" start with
  | [] => .ok { b with gestures := b.gestures ++ [⟨freshId, characterId, gesture, start, lineId⟩] }
  | ps => .error ps

/-- Makes the estimate the duration. -/
def fixDuration (b : LayeredBeat α) : LayeredBeat α := { b with duration := some b.estimate }

end LayeredBeat

namespace Edit

/-- The beat after an edit. -/
def apply (b : LayeredBeat α) : Edit α → Checked (LayeredBeat α)
  | appendLine speaker text tone gesture id => .ok (b.appendLine speaker text tone gesture id)
  | removeLine id => .ok (b.removeLine id)
  | addWalk characterId target start origin id => b.addWalk characterId target start origin id
  | addGesture characterId gesture start lineId => b.addGesture characterId gesture start lineId
  | setLocation location => .ok { b with location := location }
  | fixDuration => .ok b.fixDuration

/-- The beat after an edit, the same beat when the edit is refused. -/
def attempt (b : LayeredBeat α) (e : Edit α) : LayeredBeat α :=
  match e.apply b with
  | .ok c => c
  | .error _ => b

/-- The beat after some edits, of which the refused ones change nothing. -/
def run (b : LayeredBeat α) (es : List (Edit α)) : LayeredBeat α := es.foldl attempt b

end Edit

end Promptbook
