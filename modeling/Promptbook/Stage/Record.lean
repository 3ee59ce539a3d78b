import Promptbook.Record.Shape
import Promptbook.Stage.Place

/-!
# Places in documents

A place is written with its coordinates.  In a beat its zone stands beside them; on reading, the
zone is overlooked, since it follows from the coordinates.
-/

namespace Promptbook

open Record

/-- The bounds across the stage, the wings included. -/
def Record.Range.across : Range := .between (-0.1) 1.1

/-- The bounds of a share. -/
def Record.Range.share : Range := .between 0.0 1.0

/-- The bounds of a time. -/
def Record.Range.time : Range := .atLeast 0.0

/-- The bounds of a duration. -/
def Record.Range.duration : Range := .above 0.0

namespace Place

/-- The coordinates of a place. -/
def fields : Shape .members (Float × Float × Unit) :=
  .field "x" (.number .across) none <|
  .field "y" (.number .share) none <|
  .done

/-- A place in a beat. -/
def shape : Shape .value (Place Float) :=
  .record fields {
    pack := fun (x, y, ()) => ⟨x, y⟩
    unpack := fun p => (p.x, p.y, ())
    derived := fun p => [("zone", .text (Vocabulary.word p.zone))] }

/-- A place in a layered beat. -/
def canvasShape : Shape .value (Place Float) :=
  .record fields {
    pack := fun (x, y, ()) => ⟨x, y⟩
    unpack := fun p => (p.x, p.y, ()) }

end Place

end Promptbook
