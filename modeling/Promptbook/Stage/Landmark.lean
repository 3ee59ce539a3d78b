import Promptbook.Number.Layout
import Promptbook.Stage.Place

/-!
# Landmarks

The named places of the stage.  Playback and the editor's canvas draw the stage line at different
heights, so a landmark has a place on either.  Any point has a nearest landmark, which labels it.
-/

namespace Promptbook

/-- A named place. -/
inductive Landmark where
  | left
  | center
  | right
  | leftFront
  | centerFront
  | rightFront
  | leftBack
  | centerBack
  | rightBack
  | offStageLeft
  | offStageRight
  deriving DecidableEq, Repr

namespace Landmark

instance : Vocabulary Landmark where
  title := "SymbolicPosition"
  all := [.left, .center, .right, .leftFront, .centerFront, .rightFront, .leftBack, .centerBack,
    .rightBack, .offStageLeft, .offStageRight]
  word
    | .left => "left"
    | .center => "center"
    | .right => "right"
    | .leftFront => "left-front"
    | .centerFront => "center-front"
    | .rightFront => "right-front"
    | .leftBack => "left-back"
    | .centerBack => "center-back"
    | .rightBack => "right-back"
    | .offStageLeft => "off-stage-left"
    | .offStageRight => "off-stage-right"
  mem_all t := by cases t <;> decide
  nodup := by decide

variable {α : Type} [Measure α]

/-- The place of a landmark in playback, where the stage line is at one half. -/
def place : Landmark → Place α
  | left => ⟨0.15, 0.5⟩
  | center => ⟨0.5, 0.5⟩
  | right => ⟨0.85, 0.5⟩
  | leftFront => ⟨0.25, 0.6⟩
  | centerFront => ⟨0.5, 0.6⟩
  | rightFront => ⟨0.75, 0.6⟩
  | leftBack => ⟨0.25, 0.4⟩
  | centerBack => ⟨0.5, 0.4⟩
  | rightBack => ⟨0.75, 0.4⟩
  | offStageLeft => ⟨-0.1, 0.5⟩
  | offStageRight => ⟨1.1, 0.5⟩

/-- The place of a landmark on the editor's canvas, where the stage line is lower. -/
def canvasPlace : Landmark → Place α
  | left => ⟨0.15, 0.6⟩
  | center => ⟨0.5, 0.6⟩
  | right => ⟨0.85, 0.6⟩
  | leftFront => ⟨0.25, 0.7⟩
  | centerFront => ⟨0.5, 0.7⟩
  | rightFront => ⟨0.75, 0.7⟩
  | leftBack => ⟨0.25, 0.5⟩
  | centerBack => ⟨0.5, 0.5⟩
  | rightBack => ⟨0.75, 0.5⟩
  | offStageLeft => ⟨-0.1, 0.6⟩
  | offStageRight => ⟨1.1, 0.6⟩

/-- The landmarks on the stage proper, in the order in which the search meets them. -/
def onStage : List Landmark :=
  [left, center, right, leftFront, centerFront, rightFront, leftBack, centerBack, rightBack]

/-- All landmarks but the two off stage are on the stage proper. -/
theorem onStage_eq : onStage =
    (Vocabulary.all : List Landmark).filter fun l => l ≠ offStageLeft ∧ l ≠ offStageRight := rfl

theorem mem_onStage_iff {l : Landmark} :
    l ∈ onStage ↔ l ≠ offStageLeft ∧ l ≠ offStageRight := by
  rw [onStage_eq, List.mem_filter, decide_eq_true_eq]
  exact and_iff_right (Vocabulary.mem_all l)

/-- The squared distance from a landmark to a point, or nothing where it is out of range. -/
def squaredDistance? (l : Landmark) (x y : α) : Option α := do
  let p : Place α := l.place
  let dx ← Measure.square? (p.x - x)
  let dy ← Measure.square? (p.y - y)
  return dx + dy

/-- The best landmark so far, with its squared distance once one has been found. -/
structure Candidate (α : Type) where
  landmark : Landmark
  distance : Option α

/-- The better of a candidate and a landmark at a squared distance: the landmark when it is at a
finite distance and strictly nearer. -/
def Candidate.improve (c : Candidate α) (l : Landmark) (d : α) : Candidate α :=
  let nearer := match c.distance with
    | none => Measure.isFinite d
    | some best => decide (d < best)
  if nearer then ⟨l, some d⟩ else c

/-- The best candidate after looking at the landmarks in turn. -/
def search? (x y : α) : List Landmark → Candidate α → Option (Candidate α)
  | [], c => some c
  | l :: ls, c => do search? x y ls (c.improve l (← l.squaredDistance? x y))

/-- The landmark nearest to a point, the earliest of equally near ones; a point beside the stage
is off stage.  Nothing where a squared distance is out of range. -/
def nearest? (x y : α) : Option Landmark :=
  if x < 0.0 then some offStageLeft
  else if (1.0 : α) < x then some offStageRight
  else (search? x y onStage ⟨center, none⟩).map (·.landmark)

end Landmark

/-- Why a point has no label. -/
inductive LabelFault where
  /-- A squared distance is out of range. -/
  | distance
  /-- A percentage has no exact value. -/
  | percentage (e : Double.NonFinite)
  deriving DecidableEq, Repr

/-- The wording of a missing label. -/
def LabelFault.message : LabelFault → String
  | .distance => "(34, 'Numerical result out of range')"
  | .percentage e => e.message

namespace Landmark

/-- The landmark nearest to a point. -/
def nearest (x y : Float) : Except LabelFault Landmark :=
  (nearest? x y).elim (.error .distance) .ok

/-- A coordinate as a whole percentage. -/
def percentage (x : Float) : Except LabelFault String :=
  match Double.round (x * 100.0) with
  | .ok n => .ok (Text.decimal n ++ "%")
  | .error e => .error (.percentage e)

/-- The label of a point: its nearest landmark and its coordinates in percent. -/
def label (x y : Float) : Except LabelFault String := do
  let l ← nearest x y
  let px ← percentage x
  let py ← percentage y
  return Vocabulary.word l ++ " (" ++ px ++ ", " ++ py ++ ")"

end Landmark

end Promptbook
