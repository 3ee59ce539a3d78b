import Mathlib
import Promptbook.Number.Double

/-!
# The order of doubles

Doubles compare as their ranks do: first by the class, from one infinity through the negative
numbers, zero and the positive numbers to the other infinity, then by exponent and mantissa.  What
is no number has no rank and compares with nothing, so that `≤` is transitive but not reflexive;
two numbers compare as in any linear order.
-/

namespace Promptbook.Double

open Float.Model Float.Model.UnpackedFloat

/-- The class, the exponent and the mantissa of a double, signed so that larger doubles come
later. -/
abbrev Rank : Type := ℤ ×ₗ ℤ ×ₗ ℤ

/-- The rank of a double, if it is a number. -/
def rank? : UnpackedFloat → Option Rank
  | .notANumber => none
  | .infinity .negative => some (toLex (-2, toLex (0, 0)))
  | .finite .negative m e _ => some (toLex (-1, toLex (-e, -m)))
  | .zero _ => some (toLex (0, toLex (0, 0)))
  | .finite .positive m e _ => some (toLex (1, toLex (e, m)))
  | .infinity .positive => some (toLex (2, toLex (0, 0)))

theorem compare_natCast (m n : ℕ) : compare (m : ℤ) n = compare m n := by
  simp only [← cmp_eq_compare]
  exact Nat.strictMono_cast.cmp_map_eq m n

theorem compare_neg (e f : ℤ) : compare (-e) (-f) = (compare e f).swap := by
  simp only [← cmp_eq_compare]
  rw [cmp_swap]
  exact StrictAnti.cmp_map_eq (fun _ _ => neg_lt_neg) e f

/-- Doubles compare as their ranks. -/
theorem compare_eq (u v : UnpackedFloat) :
    u.compare v = (rank? u).bind fun a => (rank? v).map fun b => compare a b := by
  rcases u with s | _ | s | ⟨s, m, e, hm⟩ <;> rcases v with t | _ | t | ⟨t, n, f, hn⟩ <;>
    (try cases s) <;> (try cases t) <;> try rfl
  -- Only numbers of one class are told apart by exponent and mantissa.
  · simp only [UnpackedFloat.compare, rank?, Option.map_some, Option.bind_some]
    change _ = some ((compare (-e) (-f)).then (compare (-(m : ℤ)) (-n)))
    rw [compare_neg, compare_neg, compare_natCast, Ordering.swap_then]
  · simp only [UnpackedFloat.compare, rank?, Option.map_some, Option.bind_some]
    change _ = some ((compare e f).then (compare (m : ℤ) n))
    rw [compare_natCast]

section Float

variable {x y : Float}

theorem le_iff : x ≤ y ↔
    ∃ a ∈ rank? x.toModel.unpack, ∃ b ∈ rank? y.toModel.unpack, a ≤ b := by
  change decide ((x.toModel.unpack.compare y.toModel.unpack).any (·.isLE) = true) = true ↔ _
  rw [decide_eq_true_iff, compare_eq]
  cases rank? x.toModel.unpack <;> cases rank? y.toModel.unpack <;>
    simp [Ordering.isLE_iff_ne_gt.trans compare_le_iff_le]

theorem lt_iff : x < y ↔
    ∃ a ∈ rank? x.toModel.unpack, ∃ b ∈ rank? y.toModel.unpack, a < b := by
  change decide ((x.toModel.unpack.compare y.toModel.unpack == some .lt) = true) = true ↔ _
  rw [decide_eq_true_iff, compare_eq]
  cases rank? x.toModel.unpack <;> cases rank? y.toModel.unpack <;> simp [compare_lt_iff_lt]

instance transLe : Trans (fun x y : Float => x ≤ y) (fun x y : Float => x ≤ y)
    (fun x y : Float => x ≤ y) where
  trans hxy hyz := by
    obtain ⟨a, ha, b, hb, hab⟩ := le_iff.1 hxy
    obtain ⟨b', hb', c, hc, hbc⟩ := le_iff.1 hyz
    obtain rfl := Option.mem_unique hb hb'
    exact le_iff.2 ⟨a, ha, c, hc, hab.trans hbc⟩

instance lawfulOrderLT : Std.LawfulOrderLT Float where
  lt_iff x y := by
    rw [lt_iff, le_iff, le_iff]
    cases rank? x.toModel.unpack <;> cases rank? y.toModel.unpack <;> simp
    exact le_of_lt

theorem isNaN_eq_false_iff : x.isNaN = false ↔ ∃ a, a ∈ rank? x.toModel.unpack := by
  change x.toModel.unpack.isNaN = false ↔ _
  rcases x.toModel.unpack with (_ | _) | _ | _ | ⟨_ | _, m, e, hm⟩ <;>
    simp [UnpackedFloat.isNaN, rank?]

/-- Numbers are in a linear order. -/
theorem not_lt (hx : x.isNaN = false) (hy : y.isNaN = false) : ¬ x < y ↔ y ≤ x := by
  obtain ⟨a, ha⟩ := isNaN_eq_false_iff.1 hx
  obtain ⟨b, hb⟩ := isNaN_eq_false_iff.1 hy
  rw [Option.mem_def] at ha hb
  rw [lt_iff, le_iff, ha, hb]
  simp

theorem le_refl (hx : x.isNaN = false) : x ≤ x := by
  obtain ⟨a, ha⟩ := isNaN_eq_false_iff.1 hx
  exact le_iff.2 ⟨a, ha, a, ha, le_rfl⟩

/-- The rank of a double, with what is no number below all numbers. -/
def key (x : Float) : WithBot Rank := rank? x.toModel.unpack

theorem lt_iff_key (hx : x.isNaN = false) : x < y ↔ key x < key y := by
  obtain ⟨a, ha⟩ := isNaN_eq_false_iff.1 hx
  have hkey : key x = (a : Rank) := ha
  rw [lt_iff, hkey]
  cases hb : rank? y.toModel.unpack with
  | none =>
    have hkey : key y = ⊥ := hb
    rw [hkey]
    exact iff_of_false (fun ⟨_, _, _, hb', _⟩ => nomatch hb') not_lt_bot
  | some b =>
    have hkey : key y = (b : Rank) := hb
    rw [hkey, WithBot.coe_lt_coe, Option.mem_def.1 ha]
    simp

theorem le_iff_key (hx : x.isNaN = false) (hy : y.isNaN = false) : x ≤ y ↔ key x ≤ key y := by
  rw [← not_lt hy hx, lt_iff_key hy]
  exact ⟨le_of_not_gt, not_lt_of_ge⟩

theorem isFinite_iff_rank : x.isFinite = true ↔
    ∃ a ∈ rank? x.toModel.unpack, -1 ≤ (ofLex a).1 ∧ (ofLex a).1 ≤ 1 := by
  change x.toModel.unpack.isFinite = true ↔ _
  rcases x.toModel.unpack with (_ | _) | _ | _ | ⟨_ | _, m, e, hm⟩ <;>
    simp [UnpackedFloat.isFinite, rank?]

/-- What lies between finite doubles is finite. -/
theorem isFinite_of_between {z : Float} (hx : x.isFinite = true) (hz : z.isFinite = true)
    (hxy : x ≤ y) (hyz : y ≤ z) : y.isFinite = true := by
  obtain ⟨a, ha, hlow, -⟩ := isFinite_iff_rank.1 hx
  obtain ⟨c, hc, -, hhigh⟩ := isFinite_iff_rank.1 hz
  obtain ⟨a', ha', b, hb, hab⟩ := le_iff.1 hxy
  obtain ⟨b', hb', c', hc', hbc⟩ := le_iff.1 hyz
  obtain rfl := Option.mem_unique ha ha'
  obtain rfl := Option.mem_unique hb hb'
  obtain rfl := Option.mem_unique hc hc'
  have hclass : ∀ {a b : Rank}, a ≤ b → (ofLex a).1 ≤ (ofLex b).1 := fun h =>
    (Prod.Lex.le_iff.1 h).elim le_of_lt fun h => h.1.le
  exact isFinite_iff_rank.2 ⟨b, hb, hlow.trans (hclass hab), (hclass hbc).trans hhigh⟩

theorem isNaN_of_le (h : x ≤ y) : x.isNaN = false ∧ y.isNaN = false := by
  obtain ⟨a, ha, b, hb, -⟩ := le_iff.1 h
  exact ⟨isNaN_eq_false_iff.2 ⟨a, ha⟩, isNaN_eq_false_iff.2 ⟨b, hb⟩⟩

end Float

end Promptbook.Double
