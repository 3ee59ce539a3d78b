import Promptbook.Proofs.Number.Monotone

/-!
# Doubles near one another

A number is rounded to a double within half a unit of its last place, and between two doubles of
one exponent there are as many others as between their mantissas.  So whether a calculation gives
more than it is given can be settled by the exact numbers where these are far enough apart, and by
trying the few doubles where they are not; and below the first double that it gives back, repeating
it gets there.
-/

namespace Promptbook.Double

open Float.Model Float.Model.UnpackedFloat

/-! ## The error of rounding -/

theorem eq_of_capped_rankAt {r m : ℕ} {T e : ℤ}
    (h : toLex (1, toLex (e, (m : ℤ))) = capped (rankAt r T)) : (m * 2 ^ e : ℚ) = r * 2 ^ T := by
  rw [capped] at h
  split_ifs at h with hlarge
  · simp at h
  · rw [rankAt] at h
    split_ifs at h with hzero hcarry
    · simp at h
    · obtain ⟨rfl, hm⟩ : e = T + 1 ∧ (m : ℤ) = 2 ^ 52 := by simpa using h
      obtain rfl : m = 2 ^ 52 := by exact_mod_cast hm
      rw [hcarry, zpow_add_one₀ two_ne_zero]
      push_cast
      ring
    · obtain ⟨rfl, hm⟩ : e = T ∧ (m : ℤ) = r := by simpa using h
      rw [Nat.cast_injective hm]

/-- The unit in which a number is rounded has its place among the 53 digits of the number. -/
theorem Scale.unit_le {v : ℚ} {T : ℤ} (hT : Scale v T) (hv : 0 ≤ v) :
    (2 : ℚ) ^ T ≤ v / 2 ^ 52 + 2 ^ (-1074 : ℤ) := by
  rcases hT.least.eq_or_lt with rfl | hlt
  · exact le_add_of_nonneg_left (by positivity)
  · have hnormal := hT.normal hlt
    rw [le_div_iff₀ (by positivity), ← le_div_iff₀' (by positivity)] at hnormal
    exact hnormal.trans (le_add_of_nonneg_right (by positivity))

/-- Rounding adds half a unit at most. -/
theorem Rounds.le_add {v : ℚ} {m : ℕ} {e : ℤ} (h : Rounds v (toLex (1, toLex (e, (m : ℤ))))) :
    (m * 2 ^ e : ℚ) ≤ v + (v / 2 ^ 52 + 2 ^ (-1074 : ℤ)) / 2 := by
  obtain ⟨T, em, hT, hst, hrank⟩ := h
  have hunit : (0 : ℚ) < 2 ^ T := by positivity
  have hv : 0 ≤ v := by
    have hlow : (0 : ℚ) ≤ v / 2 ^ T := em.mantissa.cast_nonneg.trans hst.le
    rwa [le_div_iff₀ hunit, zero_mul] at hlow
  have hle := hT.unit_le hv
  have hnear := hst.near.1
  rw [le_div_iff₀ hunit, sub_mul] at hnear
  rw [eq_of_capped_rankAt hrank]
  linarith

section Float

variable {x y z c : Float}

/-- A product is not much larger than the exact one. -/
theorem magnitude_mul_le (hx : 0.0 ≤ x) (hc : 0.0 < c) (hfinite : c.isFinite = true) {u v w : ℚ}
    (hu : magnitude x = (u : WithTop ℚ)) (hv : magnitude c = (v : WithTop ℚ))
    (hw : magnitude (x * c) = (w : WithTop ℚ)) :
    w ≤ u * v + (u * v / 2 ^ 52 + 2 ^ (-1074 : ℤ)) / 2 := by
  obtain ⟨n, f, hn, hunpack⟩ := exists_canonical_of_pos hc hfinite
  obtain ⟨a, ha, hrounds⟩ := exists_rounds_mul hx hn hunpack
  rw [magnitude_of_unpack hunpack, WithTop.coe_inj] at hv
  rw [hu, WithTop.map_coe, hv] at hrounds
  obtain ⟨-, htop⟩ | ⟨-, hzero⟩ | ⟨m, e, _, -, hprod, hmag⟩ :=
    unpack_cases (mul_nonneg hx hc hfinite)
  · exact absurd (htop.symm.trans hw) WithTop.top_ne_coe
  · have hu0 : 0 ≤ u := by exact_mod_cast hu ▸ magnitude_nonneg hx
    have hv0 : 0 ≤ v := by
      rw [← hv]
      positivity
    obtain rfl : (0 : ℚ) = w := by exact_mod_cast hzero.symm.trans hw
    positivity
  · rw [hprod] at ha
    obtain rfl := Option.mem_unique ha rfl
    obtain rfl : (m * 2 ^ e : ℚ) = w := by exact_mod_cast hmag.symm.trans hw
    exact hrounds.le_add

/-- A sum that is not larger before it is rounded is not larger afterwards. -/
theorem add_le_of_magnitude (hx : 0.0 ≤ x) (hy : 0.0 ≤ y) (hz : 0.0 ≤ z)
    (h : magnitude x + magnitude y ≤ magnitude z) : x + y ≤ z := by
  obtain ⟨a, ha, hxy⟩ := exists_rounds_add hx hy
  obtain ⟨b, hb, hzb⟩ := exists_rounds_magnitude hz
  exact le_iff.2 ⟨a, ha, b, hb, hxy.mono hzb h⟩

/-! ## The doubles between two -/

/-- A double between two of the same exponent is one of those with a mantissa between theirs. -/
theorem exists_of_between {m n : ℕ} {e : ℤ} {hm : 0 < m} {hn : 0 < n}
    (hx : x.toModel.unpack = .finite .positive m e hm)
    (hz : z.toModel.unpack = .finite .positive n e hn) (hxy : x ≤ y) (hyz : y ≤ z) :
    ∃ k hk, m ≤ k ∧ k ≤ n ∧
      y = Float.ofModel (Float.Model.pack (.finite .positive k e hk)) := by
  have hpos : 0.0 ≤ y := by
    refine Trans.trans (nonneg_iff.2 ?_ : 0.0 ≤ x) hxy
    rw [hx]
    trivial
  rw [le_iff, hx] at hxy
  rw [le_iff, hz] at hyz
  rw [← ofModel_pack_unpack y]
  obtain ⟨hy, -⟩ | ⟨⟨s, hy⟩, -⟩ | ⟨k, f, hk, -, hy, -⟩ := unpack_cases hpos <;>
    rw [hy] at hxy hyz ⊢ <;>
    simp [rank?, Prod.Lex.toLex_le_toLex] at hxy hyz
  obtain rfl : f = e := by omega
  exact ⟨k, hk.pos, by omega, by omega, rfl⟩

/-! ## Repeating a calculation -/

/-- A calculation that keeps the order gives more than it is given, as long as repeating it from
zero gets further than that. -/
theorem lt_of_lt_iterate {f : Float → Float} (hnonneg : ∀ x, 0.0 ≤ x → 0.0 ≤ f x)
    (hmono : ∀ x y, 0.0 ≤ x → x ≤ y → f x ≤ f y) {n : ℕ} (hx : 0.0 ≤ x) (h : x < f^[n] 0.0) :
    x < f x := by
  have hiterate : ∀ n, 0.0 ≤ f^[n] 0.0 := fun n => by
    induction n with
    | zero => exact (by decide : (0.0 : Float) ≤ 0.0)
    | succ n ih =>
      rw [Function.iterate_succ_apply']
      exact hnonneg _ ih
  -- Before the number lies the last one that the repetition reaches without getting further.
  induction n with
  | zero => exact absurd h (Std.not_lt_of_ge hx)
  | succ n ih =>
    by_cases hlt : x < f^[n] 0.0
    · exact ih hlt
    · have hle : f^[n] 0.0 ≤ x :=
        (not_lt (isNaN_of_le hx).2 (isNaN_of_le (hiterate n)).2).1 hlt
      rw [Function.iterate_succ_apply'] at h
      exact Std.lt_of_lt_of_le h (hmono _ _ (hiterate n) hle)

end Float

end Promptbook.Double
