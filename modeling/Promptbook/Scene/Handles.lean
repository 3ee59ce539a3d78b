import Promptbook.Beat.Basic
import Promptbook.Json.Value

/-!
# Pictures and their handles

Scenes need pictures of characters and backdrops, which have names.  Handles stand for them at
playback; a picture without a handle of its own gets the fallback.
-/

namespace Promptbook

/-- Handles for pictures by name. -/
structure Handles (η : Type) where
  find? : String → Option η
  fallback : η

namespace Handles

/-- The handle for a name. -/
def handle {η : Type} (h : Handles η) (name : String) : η := (h.find? name).getD h.fallback

/-- Each name is its own handle. -/
def names : Handles String := ⟨some, "stage_floor"⟩

/-- Handles from the members of an object, where null is no handle. -/
def table (entries : List (Spelling × Json)) (fallback : Json) : Handles Json where
  find? name :=
    match Json.lookup? name entries with
    | some .null => none
    | handle => handle
  fallback := fallback

end Handles

/-- The picture for a kind of scenery; a scenery of one's own has none and gets the stage floor. -/
def Scenery.picture : Scenery → String
  | stageFloor | custom => "stage_floor"
  | forest => "bg_forest"
  | park => "bg_park"
  | indoor => "bg_indoor"
  | street => "bg_street"

/-- The picture for a backdrop; without one the stage floor is shown. -/
def Backdrop.picture (b : Option Backdrop) : String :=
  ((b.map Backdrop.scenery).getD Scenery.stageFloor).picture

/-- The picture of a character in one frame of an animation. -/
def Gender.picture (gender : Gender) (animation : Animation) (frame : Int) : String :=
  "stage_" ++ String.ofList (Text.asciiLower (Vocabulary.word gender).toList) ++ "_1_" ++
    Vocabulary.word animation ++ "_" ++ Text.decimal frame

end Promptbook
