import Promptbook.Measure

/-!
# Voices

The sound that a character's speech bubble makes while its text is typed out.
-/

namespace Promptbook

/-- The sound of a typed line: its pitch, two times in milliseconds, and its volume. -/
structure Voice (α : Type) where
  pitch : α
  speed : Int
  duration : Int
  volume : α
  enabled : Bool
  deriving DecidableEq, Repr

namespace Voice

variable {α : Type} [Measure α]

/-- The voice of a character that has none of its own. -/
def usual : Voice α := ⟨1.0, 80, 50, 0.5, true⟩

/-- The ready-made voices by name. -/
def presets : List (String × Voice α) := [
  ("male_deep", ⟨0.7, 100, 60, 0.6, true⟩),
  ("male_normal", ⟨0.9, 85, 55, 0.5, true⟩),
  ("female_normal", ⟨1.2, 70, 50, 0.5, true⟩),
  ("female_high", ⟨1.5, 60, 45, 0.5, true⟩),
  ("child", ⟨1.8, 50, 40, 0.4, true⟩),
  ("silent", { usual with enabled := false })]

/-- The ready-made voice with a name. -/
def preset? (name : String) : Option (Voice α) := presets.lookup name

end Voice

end Promptbook
