import Promptbook.Proofs.Number.Differences
import Promptbook.Proofs.Number.Undefined

/-!
# Squares out of range

The square of a finite double is infinite exactly from `2 ^ 512` on.  The doubles around that bound
are far apart, so that the difference of a share of one and a number is on the same side of it as
the number, although it is rounded.
-/

namespace Promptbook.Double

open Float.Model Float.Model.UnpackedFloat

variable {x y c : Float}

/-! ## The bound -/

theorem canonical_full {e : ℤ} (he : -1074 ≤ e) : Canonical (2 ^ 53 - 1) e :=
  ⟨by norm_num, by norm_num, he, fun _ => by norm_num⟩

/-- The largest double at an exponent. -/
def full (e : ℤ) : Float := .ofModel (.pack (.finite .positive (2 ^ 53 - 1) e (by norm_num)))

theorem unpack_full {e : ℤ} (he : -1074 ≤ e) (he' : e ≤ 971) :
    (full e).toModel.unpack = .finite .positive (2 ^ 53 - 1) e (canonical_full he).pos :=
  unpack_pack _ (canonical_full he) he'

/-- Between the largest double at an exponent and the next power of two there is no double. -/
theorem le_full {e : ℤ} (he : -1074 ≤ e) (he' : e ≤ 971) (hx : 0.0 ≤ x)
    (hlt : magnitude x < ((2 ^ 53 * 2 ^ e : ℚ) : WithTop ℚ)) : x ≤ full e := by
  have hnonneg : 0.0 ≤ full e := nonneg_iff.2 (by rw [unpack_full he he']; trivial)
  rw [le_iff_magnitude hx hnonneg, magnitude_of_unpack (unpack_full he he')]
  obtain ⟨-, hv⟩ | ⟨-, hv⟩ | ⟨m, f, hc, -, -, hv⟩ := unpack_cases hx
  · rw [hv] at hlt
    exact absurd hlt not_top_lt
  · rw [hv, ← WithTop.coe_zero, WithTop.coe_le_coe]
    positivity
  · rw [hv, WithTop.coe_lt_coe] at hlt
    rw [hv, WithTop.coe_le_coe]
    have hf : f ≤ e := by
      by_contra! hlarge
      have hm : (2 ^ 52 : ℚ) ≤ m := by exact_mod_cast hc.normal (by omega)
      have hpow : (2 : ℚ) ^ (e + 1) ≤ 2 ^ f := zpow_le_zpow_right₀ one_le_two (by omega)
      refine absurd hlt (not_lt_of_ge ?_)
      calc (2 ^ 53 * 2 ^ e : ℚ) = 2 ^ 52 * 2 ^ (e + 1) := by
            rw [zpow_add_one₀ two_ne_zero]
            ring
        _ ≤ m * 2 ^ f := mul_le_mul hm hpow (by positivity) (by positivity)
    have hm : (m : ℚ) ≤ (2 ^ 53 - 1 : ℕ) := by exact_mod_cast Nat.le_pred_of_lt hc.lt
    exact mul_le_mul hm (zpow_le_zpow_right₀ one_le_two hf) (by positivity) (by positivity)

/-- No finite double is larger than the largest at the largest exponent. -/
theorem le_full_of_isFinite (hx : 0.0 ≤ x) (hfinite : x.isFinite = true) : x ≤ full 971 := by
  refine le_full (by norm_num) le_rfl hx ?_
  change x.toModel.unpack.isFinite = true at hfinite
  obtain ⟨hu, -⟩ | ⟨-, hv⟩ | ⟨m, e, hc, he, -, hv⟩ := unpack_cases hx
  · rw [hu] at hfinite
    cases hfinite
  · rw [hv, ← WithTop.coe_zero, WithTop.coe_lt_coe]
    positivity
  · rw [hv, WithTop.coe_lt_coe]
    have hm : (m : ℚ) < 2 ^ 53 := by exact_mod_cast hc.lt
    exact mul_lt_mul hm (zpow_le_zpow_right₀ one_le_two he) (by positivity) (by positivity)

theorem canonical_squareBound : Canonical (2 ^ 52) 460 :=
  ⟨by norm_num, by norm_num, by norm_num, fun _ => le_rfl⟩

/-- The least double whose square is infinite, `2 ^ 512`. -/
def squareBound : Float := .ofModel (.pack (.finite .positive (2 ^ 52) 460 (by norm_num)))

theorem unpack_squareBound :
    squareBound.toModel.unpack = .finite .positive (2 ^ 52) 460 canonical_squareBound.pos :=
  unpack_pack _ canonical_squareBound (by norm_num)

theorem squareBound_nonneg : 0.0 ≤ squareBound := by decide +kernel

/-- Whether a double is so far from zero that its square is infinite, if it is not infinite
itself. -/
def Vast (x : Float) : Prop := ((2 ^ 512 : ℚ) : WithTop ℚ) ≤ magnitude x

theorem vast_neg : Vast (-x) ↔ Vast x := by
  rw [Vast, magnitude_neg, Vast]

theorem vast_sub_comm : Vast (c - x) ↔ Vast (x - c) := by
  rw [Vast, magnitude_sub_comm, Vast]

theorem squareBound_le_iff (hx : 0.0 ≤ x) : squareBound ≤ x ↔ Vast x := by
  have hbound : (2 ^ 512 : ℚ) = (2 ^ 52 : ℕ) * 2 ^ (460 : ℤ) := by
    rw [Nat.cast_pow, Nat.cast_ofNat, zpow_ofNat, ← pow_add]
  rw [le_iff_magnitude squareBound_nonneg hx, magnitude_of_unpack unpack_squareBound, Vast, hbound]

/-- Below the bound a double is at most the one before it. -/
theorem le_full_of_not_squareBound_le (hx : 0.0 ≤ x) (h : ¬ squareBound ≤ x) : x ≤ full 459 := by
  refine le_full (by norm_num) (by norm_num) hx ?_
  rw [squareBound_le_iff hx, Vast, not_le] at h
  have hbound : (2 ^ 512 : ℚ) = 2 ^ 53 * 2 ^ (459 : ℤ) := by
    rw [zpow_ofNat, ← pow_add]
  rwa [← hbound]

/-! ## Differences from a share -/

/-- A share of one is below the bound. -/
theorem not_squareBound_le_share (hle : c ≤ 1.0) : ¬ squareBound ≤ c := fun h =>
  absurd (Trans.trans h hle : squareBound ≤ 1.0) (by decide +kernel)

/-- The difference of a number and a share of one is on the same side of the bound as the
number. -/
theorem sub_share (hc : 0.0 ≤ c) (hle : c ≤ 1.0) (hcx : c ≤ x) (hfinite : x.isFinite = true) :
    (x - c).isFinite = true ∧ (Vast (x - c) ↔ Vast x) := by
  obtain ⟨hnonneg, hself⟩ := sub_bounds hc hcx hfinite
  rw [← squareBound_le_iff hnonneg, ← squareBound_le_iff (Trans.trans hc hcx)]
  refine ⟨isFinite_of_le hnonneg hself hfinite, fun h => Trans.trans h hself, fun h => ?_⟩
  -- One less does not move the bound.
  have hbound : squareBound ≤ squareBound - 1.0 := by decide +kernel
  exact Trans.trans hbound (sub_mono hc hle (by decide +kernel) h hfinite)

/-- And so is the sum of a share and a number. -/
theorem share_add (hc : 0.0 ≤ c) (hle : c ≤ 1.0) (hx : 0.0 ≤ x) (hfinite : x.isFinite = true) :
    (c + x).isFinite = true ∧ (Vast (c + x) ↔ Vast x) := by
  have hself : x ≤ c + x := by
    obtain ⟨a, ha, hxa⟩ := exists_rounds_magnitude hx
    obtain ⟨b, hb, hcx⟩ := exists_rounds_add hc hx
    exact le_iff.2 ⟨a, ha, b, hb, hxa.mono hcx (le_add_of_nonneg_left (magnitude_nonneg hc))⟩
  have hnonneg : 0.0 ≤ c + x := Trans.trans hx hself
  -- What one more does not move, a sum does not pass.
  have hpass : ∀ b : Float, 1.0 + b ≤ b → x ≤ b → c + x ≤ b := fun b hb hxb =>
    Trans.trans (add_mono hc hx hle hxb) hb
  rw [← squareBound_le_iff hnonneg, ← squareBound_le_iff hx]
  refine ⟨?_, fun h => ?_, fun h => Trans.trans h hself⟩
  · have hsum := hpass (full 971) (by decide +kernel) (le_full_of_isFinite hx hfinite)
    exact isFinite_of_le hnonneg hsum (by decide +kernel)
  · by_contra hlt
    have hsum := hpass (full 459) (by decide +kernel) (le_full_of_not_squareBound_le hx hlt)
    exact absurd (Trans.trans h hsum : squareBound ≤ full 459) (by decide +kernel)

/-- The difference of a share and a number is finite where the number is, and on the same side of
the bound. -/
theorem share_sub (hc : 0.0 ≤ c) (hle : c ≤ 1.0) (hfinite : y.isFinite = true) :
    (c - y).isFinite = true ∧ (Vast (c - y) ↔ Vast y) := by
  rcases nonneg_or_neg_nonneg (isNaN_of_isFinite hfinite) with hy | hy
  · by_cases hcy : c < y
    · rw [isFinite_sub_comm y c, vast_sub_comm]
      exact sub_share hc hle (Std.le_of_lt hcy) hfinite
    · rw [not_lt (isNaN_of_le hc).2 (isNaN_of_isFinite hfinite)] at hcy
      obtain ⟨hnonneg, hself⟩ := sub_bounds hy hcy (isFinite_of_le hc hle (by decide))
      rw [← squareBound_le_iff hnonneg, ← squareBound_le_iff hy]
      refine ⟨isFinite_of_le hnonneg (Trans.trans hself hle) (by decide), iff_of_false ?_ ?_⟩
      · exact not_squareBound_le_share (Trans.trans hself hle)
      · exact not_squareBound_le_share (Trans.trans hcy hle)
  · rw [sub_eq_add_opposite, ← vast_neg (x := y)]
    exact share_add hc hle hy ((isFinite_neg y).trans hfinite)

theorem isFinite_of_sub (hc : c.isFinite = true) (h : (c - y).isFinite = true) :
    y.isFinite = true := by
  change c.toModel.unpack.isFinite = true at hc
  change (c - y).toModel.unpack.isFinite = true at h
  change y.toModel.unpack.isFinite = true
  rw [unpack_sub] at h
  generalize c.toModel.unpack = u at hc h
  generalize y.toModel.unpack = v at h
  rcases v with s | _ | s | ⟨s, m, e, hm⟩
  · have hsub : UnpackedFloat.sub .binary64 u (.infinity s) = .infinity (-s) := by
      rcases u with _ | _ | _ | _ <;> first | rfl | cases hc
    rw [hsub] at h
    cases s <;> exact absurd h (by decide)
  · have hsub : UnpackedFloat.sub .binary64 u .notANumber = .notANumber := by cases u <;> rfl
    rw [hsub] at h
    exact absurd h (by decide)
  · rfl
  · rfl

/-! ## Squares -/

/-- Opposites have one square. -/
theorem neg_mul_self (x : Float) : -x * -x = x * x := by
  change Float.ofModel (.pack (UnpackedFloat.mul .binary64 (-x).toModel.unpack (-x).toModel.unpack))
    = Float.ofModel (.pack (UnpackedFloat.mul .binary64 x.toModel.unpack x.toModel.unpack))
  rw [unpack_neg]
  rcases x.toModel.unpack with s | _ | s | ⟨s, m, e, hm⟩ <;> (try cases s) <;> rfl

/-- The square is the exact one, rounded once. -/
theorem exists_rounds_mul_self (hx : 0.0 ≤ x) :
    ∃ a ∈ rank? (x * x).toModel.unpack, Rounds ((magnitude x).map fun v => v * v) a := by
  change ∃ a ∈ rank? (Float.Model.pack
    (UnpackedFloat.mul .binary64 x.toModel.unpack x.toModel.unpack)).unpack, _
  obtain ⟨hu, hv⟩ | ⟨⟨s, hu⟩, hv⟩ | ⟨m, e, hc, -, hu, hv⟩ := unpack_cases hx <;> rw [hu, hv]
  · exact ⟨_, rfl, rfl⟩
  · rw [← WithTop.coe_zero, WithTop.map_coe, zero_mul]
    cases s <;> exact ⟨_, rfl, rounds_zero⟩
  · exact exists_rounds_mul_positive hc hc

/-- Squares grow with their root. -/
theorem mul_self_mono (hx : 0.0 ≤ x) (hxy : x ≤ y) : x * x ≤ y * y := by
  have hy : 0.0 ≤ y := Trans.trans hx hxy
  obtain ⟨a, ha, hxx⟩ := exists_rounds_mul_self hx
  obtain ⟨b, hb, hyy⟩ := exists_rounds_mul_self hy
  refine le_iff.2 ⟨a, ha, b, hb, hxx.mono hyy ?_⟩
  have hzero := magnitude_nonneg hx
  rw [le_iff_magnitude hx hy] at hxy
  generalize magnitude x = v at hzero hxy ⊢
  generalize magnitude y = w at hxy ⊢
  induction w using WithTop.recTopCoe with
  | top => exact le_top
  | coe w =>
    induction v using WithTop.recTopCoe with
    | top => exact absurd hxy (WithTop.not_top_le_coe w)
    | coe v =>
      rw [WithTop.coe_le_coe] at hxy
      rw [WithTop.map_coe, WithTop.map_coe, WithTop.coe_le_coe]
      exact mul_self_le_mul_self (by exact_mod_cast hzero) hxy

/-- Nothing is larger than infinity. -/
theorem isInf_of_infinity_le (h : infinity ≤ x) : x.isInf = true := by
  obtain ⟨a, ha, b, hb, hab⟩ := le_iff.1 h
  obtain rfl : toLex (2, toLex (0, 0)) = a := Option.some.inj ha
  change x.toModel.unpack.isInf = true
  generalize x.toModel.unpack = u at hb
  rcases u with (_ | _) | _ | _ | ⟨_ | _, m, e, hm⟩ <;> cases hb
  case infinity.positive => rfl
  all_goals exact absurd hab (by simp [Prod.Lex.toLex_le_toLex])

theorem isInf_mul_self_iff (hx : 0.0 ≤ x) : (x * x).isInf = true ↔ squareBound ≤ x := by
  have hzero : (0.0 : Float) * 0.0 ≤ x * x := mul_self_mono (by decide) hx
  constructor
  · intro h
    by_contra hlt
    have hle := mul_self_mono hx (le_full_of_not_squareBound_le hx hlt)
    have hfinite := isFinite_of_between (by decide) (by decide +kernel) hzero hle
    exact absurd h (Bool.eq_false_iff.1 (isInf_eq_false_of_isFinite hfinite))
  · intro h
    have hinfinite : infinity ≤ squareBound * squareBound := by decide +kernel
    exact isInf_of_infinity_le (Trans.trans hinfinite (mul_self_mono squareBound_nonneg h))

/-- The square of a double is out of range where the double is finite and not below the bound. -/
theorem square?_eq_none_iff (x : Float) :
    square? x = none ↔ x.isFinite = true ∧ Vast x := by
  simp only [square?]
  cases hfinite : x.isFinite with
  | false => simp
  | true =>
    suffices (x * x).isInf = true ↔ Vast x by
      rw [← this]
      simp
    rcases nonneg_or_neg_nonneg (isNaN_of_isFinite hfinite) with hx | hx
    · rw [isInf_mul_self_iff hx, squareBound_le_iff hx]
    · rw [← neg_mul_self, isInf_mul_self_iff hx, squareBound_le_iff hx, vast_neg]

/-- Whether the square of a difference from a share is out of range does not depend on the share. -/
theorem square?_share_sub_eq_none_iff (hc : 0.0 ≤ c) (hle : c ≤ 1.0) :
    square? (c - y) = none ↔ y.isFinite = true ∧ Vast y := by
  rw [square?_eq_none_iff]
  constructor
  · intro ⟨hfinite, hfar⟩
    have hy := isFinite_of_sub (isFinite_of_le hc hle (by decide)) hfinite
    exact ⟨hy, (share_sub hc hle hy).2.1 hfar⟩
  · intro ⟨hfinite, hfar⟩
    obtain ⟨hdifference, hiff⟩ := share_sub hc hle hfinite
    exact ⟨hdifference, hiff.2 hfar⟩

end Promptbook.Double
