import Promptbook.Proofs.Number.Monotone

/-!
# Differences of doubles

Opposite doubles differ in nothing but the sign, and the differences of two doubles in either order
are opposite.  It is enough therefore to look at the smaller of two numbers taken from the larger:
the result is the exact difference, rounded once, so that it grows with the one and shrinks with the
other.
-/

namespace Promptbook.Double

open Float.Model Float.Model.UnpackedFloat

/-! ## Opposites -/

theorem unpack_packComponents_neg (s : Sign) (e : BitVec 11) (m : BitVec 52) :
    UnpackedFloat.unpack .binary64 (packComponents .binary64 (-s) e m) =
      (UnpackedFloat.unpack .binary64 (packComponents .binary64 s e m)).neg := by
  simp only [UnpackedFloat.unpack, unpackExponent_packComponents, unpackMantissa_packComponents,
    unpackSign_packComponents, Sign.ofBitVec_toBitVec]
  split_ifs <;> rfl

/-- Opposites differ in nothing but the sign where they are packed. -/
theorem unpack_pack_neg (u : UnpackedFloat) :
    (Float.Model.pack u.neg).unpack = (Float.Model.pack u).unpack.neg := by
  change UnpackedFloat.unpack .binary64 (UnpackedFloat.pack .binary64 _) =
    (UnpackedFloat.unpack .binary64 (UnpackedFloat.pack .binary64 _)).neg
  rcases u with s | _ | s | ⟨s, m, e, hm⟩
  · cases s <;> rfl
  · rfl
  · cases s <;> rfl
  · rw [UnpackedFloat.neg, UnpackedFloat.pack, UnpackedFloat.pack]
    dsimp only
    split_ifs
    · cases s <;> rfl
    · exact unpack_packComponents_neg ..
    · exact unpack_packComponents_neg ..

theorem apply_neg (s : Sign) (n : ℤ) : (-s).apply n = -s.apply n := by
  cases s
  · exact (neg_neg n).symm
  · rfl

theorem neg_roundWithAccuracy (s : Sign) (m : ℕ) (e : ℤ) (a : Accuracy) :
    (roundWithAccuracy .binary64 s m e a).neg = roundWithAccuracy .binary64 (-s) m e a := by
  simp only [roundWithAccuracy]
  split_ifs <;> rfl

/-- A number and its opposite are rounded alike. -/
theorem neg_normalize {m : ℤ} (hm : m ≠ 0) (e : ℤ) (s t : Sign) :
    (UnpackedFloat.normalize .binary64 m e s).neg =
      UnpackedFloat.normalize .binary64 (-m) e t := by
  simp only [UnpackedFloat.normalize, UnpackedFloat.round]
  rcases lt_or_gt_of_ne hm with hneg | hpos
  · rw [compare_lt_iff_lt.2 hneg, compare_gt_iff_gt.2 (neg_pos.2 hneg)]
    exact neg_roundWithAccuracy ..
  · rw [compare_gt_iff_gt.2 hpos, compare_lt_iff_lt.2 (neg_lt_zero.2 hpos), neg_neg]
    exact neg_roundWithAccuracy ..

theorem normalize_zero (e : ℤ) (s : Sign) :
    UnpackedFloat.normalize .binary64 0 e s = .zero s := rfl

/-- The differences of two numbers in either order are opposite, or both are zero. -/
theorem sub_swap (u v : UnpackedFloat) :
    UnpackedFloat.sub .binary64 v u = (UnpackedFloat.sub .binary64 u v).neg ∨
      (∃ s, UnpackedFloat.sub .binary64 u v = .zero s) ∧
        ∃ t, UnpackedFloat.sub .binary64 v u = .zero t := by
  rcases u with s | _ | s | ⟨s, m, e, hm⟩ <;> rcases v with t | _ | t | ⟨t, n, f, hn⟩
  case finite.finite =>
    simp only [UnpackedFloat.sub, decreaseExponent, min_comm f e]
    generalize min e f = g
    generalize s.apply (m <<< (e - g).toNat : ℕ) = M, t.apply (n <<< (f - g).toNat : ℕ) = N
    rcases eq_or_ne M N with rfl | hne
    · rw [sub_self]
      exact .inr ⟨⟨_, normalize_zero ..⟩, _, normalize_zero ..⟩
    · rw [neg_normalize (sub_ne_zero.2 hne) g .positive .positive, neg_sub]
      exact .inl rfl
  case zero.zero => cases s <;> cases t <;> exact .inr ⟨⟨_, rfl⟩, _, rfl⟩
  all_goals (try cases s) <;> (try cases t) <;> exact .inl rfl

theorem unpacked_sub_eq (u v : UnpackedFloat) :
    UnpackedFloat.sub .binary64 u v = UnpackedFloat.add .binary64 u v.neg := by
  rcases u with s | _ | s | ⟨s, m, e, hm⟩ <;> rcases v with t | _ | t | ⟨t, n, f, hn⟩
  case finite.finite =>
    simp only [UnpackedFloat.sub, UnpackedFloat.add, UnpackedFloat.neg, apply_neg, sub_eq_add_neg]
  all_goals (try cases s) <;> (try cases t) <;> rfl

section Float

variable {x y c d : Float}

theorem unpack_neg (x : Float) : (-x).toModel.unpack = x.toModel.unpack.neg := by
  change (Float.Model.pack x.toModel.unpack.neg).unpack = _
  rw [unpack_pack_neg, unpack_pack_unpack]

theorem magnitude_neg (x : Float) : magnitude (-x) = magnitude x := by
  rw [magnitude, magnitude, unpack_neg]
  cases x.toModel.unpack <;> rfl

theorem isFinite_neg (x : Float) : (-x).isFinite = x.isFinite := by
  change (-x).toModel.unpack.isFinite = x.toModel.unpack.isFinite
  rw [unpack_neg]
  cases x.toModel.unpack <;> rfl

/-- Of a number and its opposite one is not negative. -/
theorem nonneg_or_neg_nonneg (hx : x.isNaN = false) : 0.0 ≤ x ∨ 0.0 ≤ -x := by
  change x.toModel.unpack.isNaN = false at hx
  rw [nonneg_iff, nonneg_iff, unpack_neg]
  generalize x.toModel.unpack = u at hx
  rcases u with (_ | _) | _ | _ | ⟨_ | _, m, e, hm⟩
  · exact .inr trivial
  · exact .inl trivial
  · cases hx
  · exact .inl trivial
  · exact .inr trivial
  · exact .inl trivial

/-- To subtract is to add the opposite. -/
theorem sub_eq_add_opposite (x y : Float) : x - y = x + -y := by
  change Float.ofModel (.pack (UnpackedFloat.sub .binary64 x.toModel.unpack y.toModel.unpack))
    = Float.ofModel (.pack (UnpackedFloat.add .binary64 x.toModel.unpack (-y).toModel.unpack))
  rw [unpack_neg, unpacked_sub_eq]

theorem unpack_sub (x y : Float) : (x - y).toModel.unpack =
    (Float.Model.pack (UnpackedFloat.sub .binary64 x.toModel.unpack y.toModel.unpack)).unpack := rfl

theorem unpack_sub_swap (x y : Float) :
    (y - x).toModel.unpack = (x - y).toModel.unpack.neg ∨
      (∃ s, (x - y).toModel.unpack = .zero s) ∧ ∃ t, (y - x).toModel.unpack = .zero t := by
  rw [unpack_sub, unpack_sub]
  obtain hswap | ⟨⟨s, hs⟩, t, ht⟩ := sub_swap x.toModel.unpack y.toModel.unpack
  · rw [hswap]
    exact .inl (unpack_pack_neg _)
  · rw [hs, ht]
    exact .inr ⟨⟨s, by cases s <;> rfl⟩, t, by cases t <;> rfl⟩

theorem magnitude_sub_comm (x y : Float) : magnitude (y - x) = magnitude (x - y) := by
  rw [magnitude, magnitude]
  obtain hswap | ⟨⟨s, hs⟩, t, ht⟩ := unpack_sub_swap x y
  · rw [hswap]
    cases (x - y).toModel.unpack <;> rfl
  · rw [hs, ht]

theorem isFinite_sub_comm (x y : Float) : (y - x).isFinite = (x - y).isFinite := by
  change (y - x).toModel.unpack.isFinite = (x - y).toModel.unpack.isFinite
  obtain hswap | ⟨⟨s, hs⟩, t, ht⟩ := unpack_sub_swap x y
  · rw [hswap]
    cases (x - y).toModel.unpack <;> rfl
  · rw [hs, ht]
    rfl

end Float

/-! ## Differences -/

theorem rank?_unpack_pack_zero (s : Sign) :
    rank? (Float.Model.pack (.zero s)).unpack = some (toLex (0, toLex (0, 0))) := by
  cases s <;> rfl

/-- Of two positive doubles the smaller one is subtracted in units of the smaller last place, and
the difference is rounded. -/
theorem exists_rounds_sub_positive {m n : ℕ} {e f : ℤ} (hm : 0 < m) (hn : 0 < n)
    (h : (n * 2 ^ f : ℚ) ≤ m * 2 ^ e) :
    ∃ r ∈ rank? (Float.Model.pack (UnpackedFloat.sub .binary64
        (.finite .positive m e hm) (.finite .positive n f hn))).unpack,
      Rounds ((m * 2 ^ e - n * 2 ^ f : ℚ) : WithTop ℚ) r := by
  simp only [UnpackedFloat.sub, decreaseExponent, Sign.apply]
  rw [← shiftLeft_zpow m (min_le_left e f), ← shiftLeft_zpow n (min_le_right e f)] at h ⊢
  generalize min e f = g at h ⊢
  generalize m <<< (e - g).toNat = M, n <<< (f - g).toNat = N at h ⊢
  have hle : N ≤ M := by
    rw [mul_le_mul_iff_left₀ (by positivity)] at h
    exact_mod_cast h
  rw [← sub_mul, ← Nat.cast_sub hle, ← Nat.cast_sub hle]
  rcases Nat.eq_zero_or_pos (M - N) with hzero | hpos
  · rw [hzero, Nat.cast_zero (R := ℚ), zero_mul]
    exact ⟨_, rank?_unpack_pack_zero .positive, rounds_zero⟩
  · rw [UnpackedFloat.normalize, compare_gt_iff_gt.2 (by exact_mod_cast hpos)]
    exact exists_rounds_round hpos.ne' g

theorem rank?_zero : rank? (0.0 : Float).toModel.unpack = some (toLex (0, toLex (0, 0))) := by
  rw [unpack_zero]
  rfl

section Float

variable {x y c d : Float}

/-- The larger of two numbers less the smaller is the exact difference, rounded once. -/
theorem exists_rounds_sub (hx : 0.0 ≤ x) (hy : 0.0 ≤ y) {u v : ℚ}
    (hu : magnitude x = (u : WithTop ℚ)) (hv : magnitude y = (v : WithTop ℚ)) (hvu : v ≤ u) :
    ∃ a ∈ rank? (x - y).toModel.unpack, Rounds ((u - v : ℚ) : WithTop ℚ) a := by
  have hself := exists_rounds_magnitude hx
  rw [← unpack_pack_unpack x] at hself
  rw [unpack_sub]
  obtain ⟨-, htop⟩ | ⟨⟨s, hxu⟩, hzero⟩ | ⟨m, e, hm, -, hxu, hxv⟩ := unpack_cases hx
  · exact absurd (hu.symm.trans htop) WithTop.coe_ne_top
  all_goals
    obtain ⟨-, htop⟩ | ⟨⟨t, hyu⟩, hzero'⟩ | ⟨n, f, hn, -, hyu, hyv⟩ := unpack_cases hy
    · exact absurd (hv.symm.trans htop) WithTop.coe_ne_top
  · obtain rfl : (0 : ℚ) = u := by exact_mod_cast hzero.symm.trans hu
    obtain rfl : (0 : ℚ) = v := by exact_mod_cast hzero'.symm.trans hv
    rw [hxu, hyu, sub_zero]
    cases s <;> cases t <;> exact ⟨_, rfl, rounds_zero⟩
  · obtain rfl : (0 : ℚ) = u := by exact_mod_cast hzero.symm.trans hu
    obtain rfl : (n * 2 ^ f : ℚ) = v := by exact_mod_cast hyv.symm.trans hv
    have hpos : (0 : ℚ) < n * 2 ^ f := mul_pos (by exact_mod_cast hn.pos) (by positivity)
    exact absurd hvu hpos.not_ge
  · obtain rfl : (0 : ℚ) = v := by exact_mod_cast hzero'.symm.trans hv
    rw [sub_zero, ← hu, hyu]
    rw [hxu] at hself ⊢
    exact hself
  · obtain rfl : (m * 2 ^ e : ℚ) = u := by exact_mod_cast hxv.symm.trans hu
    obtain rfl : (n * 2 ^ f : ℚ) = v := by exact_mod_cast hyv.symm.trans hv
    rw [hxu, hyu]
    exact exists_rounds_sub_positive hm.pos hn.pos hvu

theorem exists_magnitude (hx : 0.0 ≤ x) (hfinite : x.isFinite = true) :
    ∃ u : ℚ, magnitude x = (u : WithTop ℚ) := by
  change x.toModel.unpack.isFinite = true at hfinite
  obtain ⟨hu, -⟩ | ⟨-, hv⟩ | ⟨m, e, -, -, -, hv⟩ := unpack_cases hx
  · rw [hu] at hfinite
    cases hfinite
  · exact ⟨0, hv⟩
  · exact ⟨_, hv⟩

/-- What lies between zero and a finite double is finite. -/
theorem isFinite_of_le (hx : 0.0 ≤ x) (hxy : x ≤ y) (hfinite : y.isFinite = true) :
    x.isFinite = true :=
  isFinite_of_between (x := 0.0) (by decide) hfinite hx hxy

/-- Differences grow with what is subtracted from, and shrink with what is subtracted. -/
theorem sub_mono (hd : 0.0 ≤ d) (hdc : d ≤ c) (hcx : c ≤ x) (hxy : x ≤ y)
    (hfinite : y.isFinite = true) : x - c ≤ y - d := by
  have hc : 0.0 ≤ c := Trans.trans hd hdc
  have hx : 0.0 ≤ x := Trans.trans hc hcx
  have hy : 0.0 ≤ y := Trans.trans hx hxy
  have hxfinite := isFinite_of_le hx hxy hfinite
  have hcfinite := isFinite_of_le hc hcx hxfinite
  obtain ⟨t, ht⟩ := exists_magnitude hd (isFinite_of_le hd hdc hcfinite)
  obtain ⟨u, hu⟩ := exists_magnitude hc hcfinite
  obtain ⟨v, hv⟩ := exists_magnitude hx hxfinite
  obtain ⟨w, hw⟩ := exists_magnitude hy hfinite
  rw [le_iff_magnitude hd hc, ht, hu, WithTop.coe_le_coe] at hdc
  rw [le_iff_magnitude hc hx, hu, hv, WithTop.coe_le_coe] at hcx
  rw [le_iff_magnitude hx hy, hv, hw, WithTop.coe_le_coe] at hxy
  obtain ⟨a, ha, hxc⟩ := exists_rounds_sub hx hc hv hu hcx
  obtain ⟨b, hb, hyd⟩ := exists_rounds_sub hy hd hw ht (by linarith)
  refine le_iff.2 ⟨a, ha, b, hb, hxc.mono hyd ?_⟩
  rw [WithTop.coe_le_coe]
  linarith

/-- A difference is not negative and not larger than what was subtracted from. -/
theorem sub_bounds (hc : 0.0 ≤ c) (hcx : c ≤ x) (hfinite : x.isFinite = true) :
    0.0 ≤ x - c ∧ x - c ≤ x := by
  have hx : 0.0 ≤ x := Trans.trans hc hcx
  obtain ⟨u, hu⟩ := exists_magnitude hc (isFinite_of_le hc hcx hfinite)
  obtain ⟨v, hv⟩ := exists_magnitude hx hfinite
  have hnonneg : 0 ≤ u := by
    have hmagnitude := magnitude_nonneg hc
    rw [hu] at hmagnitude
    exact_mod_cast hmagnitude
  rw [le_iff_magnitude hc hx, hu, hv, WithTop.coe_le_coe] at hcx
  obtain ⟨a, ha, hxc⟩ := exists_rounds_sub hx hc hv hu hcx
  obtain ⟨b, hb, hself⟩ := exists_rounds_magnitude hx
  rw [hv] at hself
  constructor
  · refine le_iff.2 ⟨_, rank?_zero, a, ha, rounds_zero.mono hxc ?_⟩
    rw [← WithTop.coe_zero, WithTop.coe_le_coe]
    linarith
  · refine le_iff.2 ⟨a, ha, b, hb, hxc.mono hself ?_⟩
    rw [WithTop.coe_le_coe]
    linarith

end Float

end Promptbook.Double
