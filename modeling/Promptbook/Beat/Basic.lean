import Promptbook.Beat.Words
import Promptbook.Cast.Character
import Promptbook.Cast.Voice
import Promptbook.Stage.Place

/-!
# Beats

A beat is one dramatic unit: a cast in which each character has one part, the lines spoken, and
the scenery, light and sound around them.  Times are in seconds from the start of the beat.
-/

namespace Promptbook

/-- The id of an entry that was given none. -/
def freshId : Spelling := "<generated>"

/-- One movement with the places it leads from and to, where they are known. -/
structure Movement (α : Type) where
  kind : MovementKind
  origin : Option (Place α)
  target : Option (Place α)
  speed : Speed
  deriving DecidableEq, Repr

/-- A mood and how strong it is. -/
structure Emotion (α : Type) where
  mood : Mood
  intensity : α
  deriving DecidableEq, Repr

/-- A gesture and the id of the character it is aimed at. -/
structure Gesture where
  kind : GestureKind
  target : Option Spelling
  deriving DecidableEq, Repr

/-- Everything that one character does during a beat. -/
structure Part (α : Type) where
  characterId : Spelling
  name : Spelling
  gender : Gender
  movement : Movement α
  emotion : Emotion α
  gesture : Option Gesture
  facing : Facing
  voice : Option (Voice α)
  deriving DecidableEq, Repr

/-- One spoken line, the seconds before it starts, and the milliseconds between two typed
characters. -/
structure Line (α : Type) where
  id : Spelling
  characterId : Spelling
  text : Spelling
  mood : Mood
  delay : α
  typingSpeed : Int
  deriving DecidableEq, Repr

/-- The scenery of a beat. -/
structure Backdrop where
  scenery : Scenery
  resource : Option Spelling
  transition : Transition
  deriving DecidableEq, Repr

/-- The light, and the id of the character in the spotlight. -/
structure Lighting (α : Type) where
  brightness : α
  color : LightColor
  spotlight : Option Spelling
  deriving DecidableEq, Repr

/-- A sound, its volume and the seconds before it starts. -/
structure SoundCue (α : Type) where
  kind : SoundKind
  volume : α
  delay : α
  deriving DecidableEq, Repr

/-- The music and the sounds of a beat. -/
structure Sound (α : Type) where
  music : Option Spelling
  cues : List (SoundCue α)
  deriving DecidableEq, Repr

/-- What a beat shows and lets hear. -/
structure Layers (α : Type) where
  parts : List (Part α)
  backdrop : Option Backdrop
  lighting : Option (Lighting α)
  sound : Option (Sound α)
  lines : List (Line α)
  deriving DecidableEq, Repr

/-- One dramatic unit with one part for each character. -/
structure Beat (α : Type) where
  id : Spelling
  name : Spelling
  description : Spelling
  duration : α
  layers : Layers α
  deriving DecidableEq, Repr

/-- Layers that show nothing. -/
def Layers.empty {α : Type} : Layers α := ⟨[], none, none, none, []⟩

/-- The milliseconds between two typed characters, where nothing else is asked for. -/
def usualTypingSpeed : Int := 50

/-- The seconds that a beat lasts, where nothing else is asked for. -/
def usualDuration {α : Type} [Measure α] : α := 3.0

end Promptbook
