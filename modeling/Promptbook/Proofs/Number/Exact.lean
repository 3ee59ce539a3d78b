import Mathlib.Algebra.BigOperators.Group.List.Basic
import Mathlib.Algebra.Order.Field.Basic
import Mathlib.Data.List.Basic
import Mathlib.Tactic.NormNum
import Promptbook.Measure

/-!
# Exact measures

Doubles stop growing when little is added to much.  What holds of times only while they grow is
stated for exact measures, of which the numbers of any ordered field are an instance, whatever the
length of a displacement may be.
-/

namespace Promptbook.Measure

/-- Measures in a linear order that grow when something positive is added. -/
class Exact (α : Type) [Measure α] : Prop extends Std.IsLinearPreorder α, Std.LawfulOrderLT α where
  lt_add (a : α) {b : α} : 0.0 < b → a < a + b
  half_pos : (0.0 : α) < 0.5
  one_pos : (0.0 : α) < 1.0

/-- The numbers of an ordered field as measures, with a length for each displacement. -/
@[reducible] def exact {K : Type} [Field K] [LinearOrder K] (span : K → K → K) : Measure K where
  ofNat n := n
  span := span
  square? x := some (x * x)
  isFinite _ := true
  decLt := inferInstance
  decLe := inferInstance

instance {K : Type} [Field K] [LinearOrder K] [IsStrictOrderedRing K] (span : K → K → K) :
    letI := exact span
    Exact K :=
  letI := exact span
  { le_refl := fun a => le_refl a
    le_trans := fun a b c => le_trans
    le_total := fun a b => le_total a b
    lt_iff := fun a b => lt_iff_le_not_ge
    lt_add := fun a b h => lt_add_of_pos_right a (by norm_num at h; exact h)
    half_pos := by norm_num
    one_pos := by norm_num }

theorem sup_exact {K : Type} [Field K] [LinearOrder K] (span : K → K → K) (x y : K) :
    letI := exact span
    sup x y = max x y :=
  (max_def_lt x y).symm

theorem total_exact {K : Type} [Field K] [LinearOrder K] [IsStrictOrderedRing K] (span : K → K → K)
    (xs : List K) :
    letI := exact span
    total xs = xs.sum := by
  have hzero : (0.0 : K) = 0 := by norm_num
  rw [List.sum_eq_foldl, ← hzero]
  rfl

theorem sup_pos {α : Type} [Measure α] [Exact α] (a : α) {b : α} (h : 0.0 < b) :
    0.0 < sup a b := by
  rw [sup]
  split
  · exact h
  · rename_i hab
    exact Std.lt_of_lt_of_le h (Std.not_lt.1 hab)

section Exact

variable {α : Type} [Measure α] [Exact α]

theorem le_sup_iff {t a b : α} : t ≤ sup a b ↔ t ≤ a ∨ t ≤ b := by
  rw [sup]
  split_ifs with h
  · exact ⟨.inr, fun ht => ht.elim (fun ht => Std.le_trans ht (Std.le_of_lt h)) id⟩
  · exact ⟨.inl, fun ht => ht.elim id fun ht => Std.le_trans ht (Std.not_lt.1 h)⟩

/-- Not to exceed the largest of some measures is not to exceed one of them. -/
theorem le_largest_iff {t a : α} {bs : List α} :
    t ≤ largest a bs ↔ t ≤ a ∨ ∃ b ∈ bs, t ≤ b := by
  induction bs generalizing a with
  | nil => simp
  | cons b bs ih => rw [largest_cons, ih, le_sup_iff, or_assoc, List.exists_mem_cons_iff]

end Exact

end Promptbook.Measure
