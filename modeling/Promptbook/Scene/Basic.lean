import Promptbook.Beat.Words
import Promptbook.Cast.Character
import Promptbook.Cast.Voice

/-!
# Scenes

What playback shows: figures at absolute places, speech bubbles and times in milliseconds.
Pictures are known by handles, of which a scene says nothing more.
-/

namespace Promptbook

/-- A place in stage units. -/
structure Point where
  x : Float
  y : Float
  deriving DecidableEq, Repr

/-- A character as it is drawn, with the handle of its picture. -/
structure Figure (η : Type) where
  id : Spelling
  name : Spelling
  gender : Gender
  image : η
  position : Point
  size : Float
  alpha : Float
  scale : Float
  rotation : Float
  flipped : Bool
  animation : Animation
  animationMillis : Int
  voice : Voice Float
  description : Option Spelling
  deriving Repr

/-- A line in its speech bubble. -/
structure Bubble where
  text : Spelling
  position : Point
  speaker : Option Spelling
  delayMillis : Int
  typingSpeed : Int
  voice : Option (Voice Float)
  deriving DecidableEq, Repr

/-- One scene, with the handle of its backdrop. -/
structure Scene (η : Type) where
  backdrop : η
  figures : List (Figure η)
  bubbles : List Bubble
  durationMillis : Int
  isEnding : Bool
  deriving Repr

/-- Scenes in the order in which they are played. -/
structure Script (η : Type) where
  scenes : List (Scene η)
  debug : Bool
  deriving Repr

variable {η θ : Type}

/-- The handles of a scene. -/
def Scene.handles (s : Scene η) : List η := s.backdrop :: s.figures.map (·.image)

/-- The figure with its handle exchanged. -/
def Figure.map (f : η → θ) (c : Figure η) : Figure θ := { c with image := f c.image }

/-- The scene with its handles exchanged. -/
def Scene.map (f : η → θ) (s : Scene η) : Scene θ :=
  { s with backdrop := f s.backdrop, figures := s.figures.map (·.map f) }

namespace Script

/-- The script with its handles exchanged. -/
def map (f : η → θ) (s : Script η) : Script θ := { s with scenes := s.scenes.map (·.map f) }

/-- The length of a script in milliseconds. -/
def totalMillis (s : Script η) : Int := (s.scenes.map (·.durationMillis)).foldl (· + ·) 0

end Script

end Promptbook
