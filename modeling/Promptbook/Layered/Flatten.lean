import Promptbook.Layered.Basic
import Promptbook.Stage.Landmark

/-!
# Flattening a layered beat

The layers collapse into one part for each character of the directory that they mention.  Of all
that a character does, a part keeps one movement, one mood and one gesture.
-/

namespace Promptbook

variable {α : Type} [Measure α]

/-- Characters that a beat mentions and a directory does not know. -/
structure UnknownCharacters where
  beatId : Spelling
  ids : List Spelling
  deriving DecidableEq, Repr

/-- The wording of unknown characters. -/
def UnknownCharacters.message (u : UnknownCharacters) : String :=
  "Beat '" ++ u.beatId.shown ++ "' references characters missing from the directory.\n" ++
    "  Cause: unresolved ids " ++ Text.quotedList u.ids ++ "\n" ++
    "  Check: Was every character added to the character list before authoring?"

/-- Where a character stands that no walk places, by its rank among the characters mentioned. -/
def placement (rank : Nat) : Place α :=
  if rank % 3 = 0 then Landmark.left.place
  else if rank % 3 = 1 then Landmark.center.place
  else Landmark.right.place

/-- The movement that stays at a place. -/
def Movement.stayAt (p : Place α) : Movement α := ⟨.stay, some p, some p, .normal⟩

/-- The movement that some walks amount to, in the order of their starts: none stays at the given
place, one at its target, and several lead from the first to the target of the last. -/
def WalkEntry.movement (fallback : Place α) : List (WalkEntry α) → Movement α
  | [] => .stayAt fallback
  | [w] => .stayAt w.target
  | w :: v :: ws =>
    ⟨.move, w.origin, some ((v :: ws).getLast (List.cons_ne_nil v ws)).target, .normal⟩

/-- The side towards which the second of some walks leads from the start of the first. -/
def WalkEntry.facing : List (WalkEntry α) → Facing
  | w :: v :: _ =>
    if w.startPlace.x < v.target.x then .right
    else if v.target.x < w.startPlace.x then .left
    else .center
  | _ => .center

/-- The mood of the first of a character's lines. -/
def LineEntry.mood (ls : List (LineEntry α)) : Mood := (ls.head?.map (·.tone.mood)).getD .neutral

/-- The gesture made with the first of a character's lines. -/
def LineEntry.firstGesture? (ls : List (LineEntry α)) : Option LineGesture :=
  (ls.head?.bind (·.gesture)).filter fun g => g ≠ .none

/-- The gesture that a character's lines and gestures amount to: the one made with the first line,
or else the first of the action layer. -/
def gestureOf? (ls : List (LineEntry α)) (gs : List (GestureEntry α)) : Option GestureKind :=
  match LineEntry.firstGesture? ls with
  | some g => g.kind?
  | none => gs.head?.bind (·.gesture.kind?)

/-- A line of the dialogue layer as a line of a beat. -/
def LineEntry.line (l : LineEntry α) : Line α :=
  ⟨l.id, l.characterId, l.text, l.tone.mood, l.start, usualTypingSpeed⟩

namespace LayeredBeat

/-- The lines of one character. -/
def linesOf (b : LayeredBeat α) (id : Spelling) : List (LineEntry α) :=
  b.lines.filter fun l => l.characterId == id

/-- The gestures of one character. -/
def gesturesOf (b : LayeredBeat α) (id : Spelling) : List (GestureEntry α) :=
  b.gestures.filter fun g => g.characterId == id

/-- The walks of one character. -/
def walksOf (b : LayeredBeat α) (id : Spelling) : List (WalkEntry α) :=
  b.walks.filter fun w => w.characterId == id

/-- The walks of all characters in the order of their starts; those that start together stay in the
order of the layer. -/
def timedWalks (b : LayeredBeat α) : List (WalkEntry α) :=
  b.walks.mergeSort fun w v => decide ¬ v.start < w.start

/-- The walks of one character among all of them in the order of their starts. -/
def timedWalksOf (b : LayeredBeat α) (id : Spelling) : List (WalkEntry α) :=
  b.timedWalks.filter fun w => w.characterId == id

theorem timedWalksOf_perm (b : LayeredBeat α) (id : Spelling) :
    (b.timedWalksOf id).Perm (b.walksOf id) := (List.mergeSort_perm _ _).filter _

/-- The part of a character with a rank among the characters mentioned. -/
def part (b : LayeredBeat α) (rank : Nat) (c : Character) : Part α where
  characterId := c.id
  name := c.name
  gender := c.gender
  movement := WalkEntry.movement (placement rank) (b.timedWalksOf c.id)
  emotion := ⟨LineEntry.mood (b.linesOf c.id), 0.7⟩
  gesture := (gestureOf? (b.linesOf c.id) (b.gesturesOf c.id)).map fun k => ⟨k, none⟩
  facing := WalkEntry.facing (b.timedWalksOf c.id)
  voice := none

/-- The parts of the characters that a directory knows.  Unknown characters keep their rank. -/
def parts (b : LayeredBeat α) (d : Directory) : List (Part α) :=
  b.involved.zipIdx.filterMap fun (id, rank) => (d.lookup? id).map (b.part rank)

/-- The beat that a layered beat flattens to.  The location is left behind: the backdrop is always
the stage floor. -/
def flatten (b : LayeredBeat α) (d : Directory) : Beat α where
  id := b.id
  name := b.name
  description := "Layered beat"
  duration := b.effectiveDuration
  layers := {
    parts := b.parts d
    backdrop := some ⟨.stageFloor, none, .cut⟩
    lighting := none
    sound := none
    lines := b.lines.map (·.line) }

/-- The characters of a beat that a directory does not know. -/
def unresolved (b : LayeredBeat α) (d : Directory) : List Spelling :=
  b.involved.filter fun id => (d.lookup? id).isNone

/-- The beat that a layered beat flattens to, where the directory knows every character of it. -/
def flattenStrict (b : LayeredBeat α) (d : Directory) : Except UnknownCharacters (Beat α) :=
  if (b.unresolved d).isEmpty then .ok (b.flatten d) else .error ⟨b.id, b.unresolved d⟩

/-- The beats that some layered beats flatten to, with or without regard to unknown characters. -/
def flattenAll (strict : Bool) (bs : List (LayeredBeat α)) (d : Directory) :
    Except UnknownCharacters (List (Beat α)) :=
  if strict then bs.mapM (·.flattenStrict d) else .ok (bs.map (·.flatten d))

end LayeredBeat

end Promptbook
