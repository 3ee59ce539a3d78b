import Promptbook.Stage.Zone

/-!
# Places on the stage

A place is a pair of coordinates relative to the stage: `x` runs from 0 at stage left to 1 at
stage right, `y` from 0 upstage to 1 downstage.  The wings reach a tenth beyond either side.
-/

namespace Promptbook

/-- A place, in coordinates relative to the stage. -/
structure Place (α : Type) where
  x : α
  y : α
  deriving DecidableEq, Repr

namespace Place

variable {α : Type} [Measure α]

/-- A place on the stage or in the wings. -/
def InBounds (p : Place α) : Prop :=
  (-0.1 ≤ p.x ∧ p.x ≤ 1.1) ∧ (0.0 ≤ p.y ∧ p.y ≤ 1.0)

/-- The zone of a place. -/
def zone (p : Place α) : Zone := .ofX p.x

/-- Whether two places have equal coordinates. -/
def coincides (p q : Place α) : Bool :=
  (p.x ≤ q.x && q.x ≤ p.x) && (p.y ≤ q.y && q.y ≤ p.y)

/-- The distance from one place to another. -/
def distance (p q : Place α) : α := Measure.span (q.x - p.x) (q.y - p.y)

/-- The time to walk from one place to another: three seconds for each width of the stage, and
never less than half a second. -/
def walkTime (p q : Place α) : α := Measure.sup (p.distance q * 3.0) 0.5

/-- A place in the units of a stage of the given width and height. -/
def scaled (p : Place α) (width height : α) : α × α := (width * p.x, height * p.y)

end Place

end Promptbook
