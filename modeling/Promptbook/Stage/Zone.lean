import Promptbook.Measure
import Promptbook.Vocabulary

/-!
# Zones

The stage in three parts, told apart by the coordinate that runs from stage left to stage right.
-/

namespace Promptbook

/-- A part of the stage. -/
inductive Zone where
  | left
  | center
  | right
  deriving DecidableEq, Repr

namespace Zone

instance : Vocabulary Zone where
  title := "PositionZone"
  all := [.left, .center, .right]
  word
    | .left => "LEFT"
    | .center => "CENTER"
    | .right => "RIGHT"
  mem_all t := by cases t <;> decide
  nodup := by decide

/-- The zone of a coordinate.  The borders belong to the center. -/
def ofX {α : Type} [Measure α] (x : α) : Zone :=
  if x < 0.3 then .left else if (0.7 : α) < x then .right else .center

end Zone

end Promptbook
