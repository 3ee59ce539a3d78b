import Promptbook.Proofs.Number.Squares
import Promptbook.Proofs.Number.Undefined
import Promptbook.Stage.Landmark

/-!
# Points without a label

Beside the stage a point is off stage whatever its height.  On the stage proper the search squares
the distances to the landmarks, and those in height are out of range for heights from `2 ^ 512` on,
up or down, as long as they are finite.  A whole percentage is missing for what is no number, and
for what is infinite when it is counted in hundredths.
-/

namespace Promptbook.Landmark

open Double

/-- Whether a point is neither beside the stage nor at a height that can be squared. -/
def OutOfRange (x y : Float) : Prop :=
  ¬ x < 0.0 ∧ ¬ 1.0 < x ∧ y.isFinite = true ∧ Vast y

/-- Why a coordinate has no whole percentage. -/
def NoPercentage (x : Float) : NonFinite → Prop
  | .notANumber => x.isNaN = true
  | .infinite => (x * 100.0).isInf = true

variable {x y : Float}

/-! ## The search -/

theorem squaredDistance?_eq_none_iff {l : Landmark} : l.squaredDistance? x y = none ↔
    square? ((l.place : Place Float).x - x) = none ∨
      square? ((l.place : Place Float).y - y) = none := by
  simp only [squaredDistance?, bind, Option.bind_eq_none_iff]
  change (∀ dx, square? _ = some dx → ∀ dy, square? _ = some dy → _) ↔ _
  cases square? ((l.place : Place Float).x - x) <;>
    cases square? ((l.place : Place Float).y - y) <;> simp

/-- The search fails at a landmark whose distance is out of range, whatever it has found before. -/
theorem search?_eq_none_iff {ls : List Landmark} {c : Candidate Float} :
    search? x y ls c = none ↔ ∃ l ∈ ls, l.squaredDistance? x y = none := by
  induction ls generalizing c with
  | nil => simp [search?]
  | cons l ls ih =>
    rw [search?, List.exists_mem_cons_iff]
    cases h : l.squaredDistance? x y with
    | none => simp
    | some d => simpa using ih

/-- The landmarks on the stage proper have shares for coordinates. -/
theorem onStage_place : ∀ l ∈ onStage,
    (0.0 ≤ (l.place : Place Float).x ∧ (l.place : Place Float).x ≤ 1.0) ∧
      (0.0 ≤ (l.place : Place Float).y ∧ (l.place : Place Float).y ≤ 1.0) := by
  decide

/-- Across the stage proper no distance is out of range. -/
theorem square?_across_ne_none {l : Landmark} (hl : l ∈ onStage) (hx : ¬ x < 0.0)
    (hx' : ¬ 1.0 < x) : square? ((l.place : Place Float).x - x) ≠ none := by
  intro hnone
  obtain ⟨⟨hlow, hhigh⟩, -⟩ := onStage_place l hl
  obtain ⟨hfinite, hfar⟩ := (square?_share_sub_eq_none_iff hlow hhigh).1 hnone
  have hnumber := isNaN_of_isFinite hfinite
  rw [Double.not_lt hnumber (by decide)] at hx
  rw [Double.not_lt (by decide) hnumber] at hx'
  exact not_squareBound_le_share hx' ((squareBound_le_iff hx).2 hfar)

theorem nearest?_eq_none_iff : nearest? x y = none ↔ OutOfRange x y := by
  rw [nearest?, OutOfRange]
  split_ifs with hleft hright
  · simp [hleft]
  · simp [hright]
  · rw [Option.map_eq_none_iff, search?_eq_none_iff]
    constructor
    · rintro ⟨l, hl, hnone⟩
      obtain ⟨-, hlow, hhigh⟩ := onStage_place l hl
      refine ⟨hleft, hright, ?_⟩
      rcases squaredDistance?_eq_none_iff.1 hnone with hacross | hheight
      · exact absurd hacross (square?_across_ne_none hl hleft hright)
      · exact (square?_share_sub_eq_none_iff hlow hhigh).1 hheight
    · rintro ⟨-, -, hfar⟩
      obtain ⟨-, hlow, hhigh⟩ := onStage_place left (by decide)
      refine ⟨left, by decide, squaredDistance?_eq_none_iff.2 (.inr ?_)⟩
      exact (square?_share_sub_eq_none_iff hlow hhigh).2 hfar

theorem nearest_eq_error_iff {e : LabelFault} :
    nearest x y = .error e ↔ e = .distance ∧ OutOfRange x y := by
  rw [← nearest?_eq_none_iff, nearest]
  cases nearest? x y <;> simp [eq_comm]

/-! ## Percentages -/

theorem parts_eq_error_iff {e : NonFinite} : parts x = .error e ↔
    match e with
    | .notANumber => x.isNaN = true
    | .infinite => x.isInf = true := by
  change _ ↔ match e with
    | .notANumber => x.toModel.unpack.isNaN = true
    | .infinite => x.toModel.unpack.isInf = true
  rw [parts]
  cases x.toModel.unpack <;> cases e <;>
    simp [Float.Model.UnpackedFloat.isNaN, Float.Model.UnpackedFloat.isInf]

theorem noPercentage_iff {e : NonFinite} : NoPercentage x e ↔ parts (x * 100.0) = .error e := by
  rw [parts_eq_error_iff]
  cases e with
  | infinite => exact Iff.rfl
  | notANumber =>
    have hnan : ¬ (100.0 : Float).isNaN = true := by decide
    have hinf : ¬ (100.0 : Float).isInf = true := by decide
    have hzero : ¬ ((100.0 : Float) == 0.0) = true := by decide
    change x.isNaN = true ↔ (x * 100.0).isNaN = true
    rw [isNaN_mul_iff]
    tauto

theorem percentage_eq_error_iff {f : LabelFault} :
    percentage x = .error f ↔ ∃ e, f = .percentage e ∧ NoPercentage x e := by
  simp only [noPercentage_iff, percentage, Double.round]
  cases parts (x * 100.0) <;> simp [Except.map, eq_comm]

/-- What goes wrong with a label: the distances first, then the coordinates in turn. -/
theorem label_eq_error_iff {f : LabelFault} : label x y = .error f ↔
    nearest x y = .error f ∨ (∃ l, nearest x y = .ok l) ∧
      (percentage x = .error f ∨ (∃ px, percentage x = .ok px) ∧ percentage y = .error f) := by
  rw [label]
  cases nearest x y <;> cases percentage x <;> cases percentage y <;>
    simp [bind, Except.bind, pure, Except.pure]

theorem exists_nearest_eq_ok_iff : (∃ l, nearest x y = .ok l) ↔ ¬ OutOfRange x y := by
  rw [← nearest?_eq_none_iff, nearest]
  cases nearest? x y <;> simp

theorem exists_percentage_eq_ok_iff : (∃ p, percentage x = .ok p) ↔ ∀ e, ¬ NoPercentage x e := by
  simp only [noPercentage_iff, percentage, Double.round]
  cases parts (x * 100.0) <;> simp [Except.map]

/-- A point has no nearest landmark exactly where it is out of range, and no label where it is, or
else where a coordinate has no percentage, the first of the two coming first. -/
theorem unlabelled_iff (x y : Float) (f : LabelFault) :
    (nearest x y = .error f ↔ f = .distance ∧ OutOfRange x y) ∧
    (label x y = .error f ↔ f = .distance ∧ OutOfRange x y ∨
      ¬ OutOfRange x y ∧ ∃ e, f = .percentage e ∧
        (NoPercentage x e ∨ (∀ e', ¬ NoPercentage x e') ∧ NoPercentage y e)) := by
  refine ⟨nearest_eq_error_iff, ?_⟩
  rw [label_eq_error_iff, nearest_eq_error_iff, exists_nearest_eq_ok_iff, percentage_eq_error_iff,
    exists_percentage_eq_ok_iff, percentage_eq_error_iff]
  constructor
  · rintro (hfar | ⟨hnear, ⟨e, rfl, he⟩ | ⟨hx, e, rfl, he⟩⟩)
    · exact .inl hfar
    · exact .inr ⟨hnear, e, rfl, .inl he⟩
    · exact .inr ⟨hnear, e, rfl, .inr ⟨hx, he⟩⟩
  · rintro (hfar | ⟨hnear, e, rfl, he | ⟨hx, he⟩⟩)
    · exact .inl hfar
    · exact .inr ⟨hnear, .inl ⟨e, rfl, he⟩⟩
    · exact .inr ⟨hnear, .inr ⟨hx, e, rfl, he⟩⟩

/-- High above the stage there is no nearest landmark, and no label for what is no number. -/
theorem unlabelled_height :
    nearest 0.5 1e200 = .error .distance ∧ label 0.5 1e200 = .error .distance ∧
      label 0.5 Double.notANumber = .error (.percentage .notANumber) ∧
      label Double.infinity 0.5 = .error (.percentage .infinite) := by
  decide +kernel

end Promptbook.Landmark
