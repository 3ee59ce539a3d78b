import Promptbook.Proofs.Number.Nonneg

/-!
# Products and sums that are no number

Rounding makes no number of anything but a number.  A product of two numbers is no number only
where one is infinite and the other zero, and a sum with a finite double is one wherever the other
summand is.
-/

namespace Promptbook.Double

open Float.Model Float.Model.UnpackedFloat

theorem isNaN_unpack_pack (u : UnpackedFloat) : (Float.Model.pack u).unpack.isNaN = u.isNaN := by
  rw [isNaN_eq_not_isSome_sign?, sign?_unpack_pack, isNaN_eq_not_isSome_sign?]

variable {x y c : Float}

theorem isNaN_of_isFinite (hfinite : x.isFinite = true) : x.isNaN = false := by
  obtain ⟨a, ha, -⟩ := isFinite_iff_rank.1 hfinite
  exact isNaN_eq_false_iff.2 ⟨a, ha⟩

theorem isInf_eq_false_of_isFinite (hfinite : x.isFinite = true) : x.isInf = false := by
  change x.toModel.unpack.isFinite = true at hfinite
  change x.toModel.unpack.isInf = false
  cases h : x.toModel.unpack <;> rw [h] at hfinite <;> first | rfl | cases hfinite

theorem beq_zero_iff : (x == 0.0) = true ↔ ∃ s, x.toModel.unpack = .zero s := by
  change (x.toModel.unpack.compare (0.0 : Float).toModel.unpack == some .eq) = true ↔ _
  rw [unpack_zero]
  rcases x.toModel.unpack with (_ | _) | _ | _ | ⟨_ | _, m, e, hm⟩ <;>
    simp [UnpackedFloat.compare]

/-- A product is no number where a factor is none, or where one is infinite and the other zero. -/
theorem isNaN_mul_iff : (x * y).isNaN = true ↔ x.isNaN = true ∨ y.isNaN = true ∨
    x.isInf = true ∧ (y == 0.0) = true ∨ (x == 0.0) = true ∧ y.isInf = true := by
  change (Float.Model.pack (UnpackedFloat.mul .binary64 x.toModel.unpack
    y.toModel.unpack)).unpack.isNaN = true ↔ x.toModel.unpack.isNaN = true ∨
      y.toModel.unpack.isNaN = true ∨ x.toModel.unpack.isInf = true ∧ _ ∨
      _ ∧ y.toModel.unpack.isInf = true
  rw [isNaN_unpack_pack, beq_zero_iff, beq_zero_iff]
  generalize x.toModel.unpack = u, y.toModel.unpack = v
  cases u <;> cases v
  case finite.finite =>
    rw [isNaN_eq_not_isSome_sign?, UnpackedFloat.mul, sign?_roundWithAccuracy]
    simp [UnpackedFloat.isNaN, UnpackedFloat.isInf]
  all_goals simp [UnpackedFloat.mul, UnpackedFloat.isNaN, UnpackedFloat.isInf]

/-- A sum with a finite double is a number where the other summand is one. -/
theorem isNaN_add_of_isFinite (hfinite : c.isFinite = true) : (x + c).isNaN = x.isNaN := by
  change c.toModel.unpack.isFinite = true at hfinite
  change (Float.Model.pack (UnpackedFloat.add .binary64 x.toModel.unpack
    c.toModel.unpack)).unpack.isNaN = x.toModel.unpack.isNaN
  rw [isNaN_unpack_pack]
  generalize x.toModel.unpack = u
  generalize c.toModel.unpack = v at hfinite
  rcases v with _ | _ | t | ⟨t, n, f, hn⟩
  · cases hfinite
  · cases hfinite
  · rcases u with s | _ | s | ⟨s, m, e, hm⟩ <;> (try cases s) <;> (try cases t) <;> rfl
  · rcases u with s | _ | s | ⟨s, m, e, hm⟩
    case finite =>
      rw [UnpackedFloat.add, isNaN_eq_not_isSome_sign?, isSome_sign?_normalize]
      rfl
    all_goals rfl

end Promptbook.Double
