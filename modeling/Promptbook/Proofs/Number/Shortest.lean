import Promptbook.Number.Shortest
import Promptbook.Proofs.Number.Rounding

/-!
# The shortest decimal is near its double

The decimal that is written for a double lies in the neighbourhood of the double.  The search for
it looks at coarser grids first; with seventeen digits the grid is finer than the neighbourhood, so
that the search never comes back with nothing.
-/

namespace Promptbook.Shortest

open Double

/-- The exact value of a decimal. -/
def Decimal.value (d : Decimal) : ℚ := d.significand * 10 ^ d.exponent

/-- A power that is split into a numerator and a denominator. -/
theorem zpow_eq_div (b : ℕ) (hb : b ≠ 0) (k : ℤ) :
    (b : ℚ) ^ k = (Nat.pow b k.toNat : ℕ) / (Nat.pow b (-k).toNat : ℕ) := by
  have hb : (b : ℚ) ≠ 0 := by exact_mod_cast hb
  rcases le_total 0 k with hk | hk
  · obtain ⟨n, rfl⟩ := Int.eq_ofNat_of_zero_le hk
    simp
  · obtain ⟨n, rfl⟩ : ∃ n : ℕ, k = -n := ⟨k.natAbs, by omega⟩
    simp

theorem fraction_eq (p : Parts) :
    (p.fraction.1 : ℚ) / p.fraction.2 = p.mantissa * 2 ^ p.exponent := by
  rw [show (2 : ℚ) = (2 : ℕ) from rfl, zpow_eq_div 2 (by norm_num), ← mul_div_assoc,
    ← Nat.cast_mul]
  rfl

/-! ## One grid -/

namespace Interval

variable (i : Interval) (k : ℤ)

/-- The step of a grid over an interval. -/
def step : ℕ := Nat.pow 10 k.toNat * Nat.pow 2 (-i.exponent).toNat

/-- A quarter of the last place, on the scale of the step. -/
def quarter : ℕ := Nat.pow 10 (-k).toNat * Nat.pow 2 i.exponent.toNat

/-- The number of steps to the last grid point that is not above the double. -/
def steps : ℕ := 4 * i.mantissa * i.quarter k / i.step k

theorem step_pos : 0 < i.step k :=
  Nat.mul_pos (Nat.pow_pos (by norm_num)) (Nat.pow_pos two_pos)

theorem quarter_pos : 0 < i.quarter k :=
  Nat.mul_pos (Nat.pow_pos (by norm_num)) (Nat.pow_pos two_pos)

variable {i k}

/-- What is found on a grid is a grid point that rounds to the double. -/
theorem onGrid?_eq_some {d : Decimal} (h : i.onGrid? k = some d) :
    d.exponent = k ∧ i.contains (d.significand * i.step k) (i.quarter k) = true := by
  rw [onGrid?] at h
  split at h
  next => cases h
  next hbelow _ =>
    cases h
    exact ⟨rfl, hbelow⟩
  next _ habove =>
    cases h
    exact ⟨rfl, habove⟩
  next hbelow habove =>
    split at h <;> cases h
    · exact ⟨rfl, hbelow⟩
    · refine ⟨rfl, ?_⟩
      split_ifs
      · exact hbelow
      · exact habove
    · exact ⟨rfl, habove⟩

/-- A grid yields something as soon as one of the two points around the double rounds to it. -/
theorem isSome_onGrid? (h : i.contains (i.steps k * i.step k) (i.quarter k) = true ∨
    i.contains ((i.steps k + 1) * i.step k) (i.quarter k) = true) : (i.onGrid? k).isSome := by
  rw [onGrid?]
  split
  next hbelow habove =>
    rcases h with h | h
    · exact absurd (hbelow.symm.trans h) Bool.false_ne_true
    · exact absurd (habove.symm.trans h) Bool.false_ne_true
  next => rfl
  next => rfl
  next => split <;> rfl

end Interval

section Grid

variable {m : ℕ} {e : ℤ}

/-- How far below a double its neighbourhood begins, in quarters of the last place. -/
theorem low_ofParts (m : ℕ) (e : ℤ) :
    (Interval.ofParts m e).low = 4 * m - 1 ∧ m = 2 ^ 52 ∧ -1074 < e ∨
      (Interval.ofParts m e).low = 4 * m - 2 ∧ ¬ (m = 2 ^ 52 ∧ -1074 < e) := by
  rw [Interval.ofParts]
  split_ifs with h
  · exact .inl ⟨rfl, h⟩
  · exact .inr ⟨rfl, h⟩

theorem contains_iff (m : ℕ) (e : ℤ) (num : ℕ) {den : ℕ} (hden : 0 < den) :
    (Interval.ofParts m e).contains num den = true ↔
      ((Interval.ofParts m e).low : ℚ) ≤ (num : ℚ) / den ∧ (num : ℚ) / den ≤ 4 * m + 2 ∧
        (m % 2 = 1 → ((Interval.ofParts m e).low : ℚ) < (num : ℚ) / den ∧
          (num : ℚ) / den < 4 * m + 2) := by
  have hpos : (0 : ℚ) < den := by exact_mod_cast hden
  have hmantissa : (Interval.ofParts m e).mantissa = m := rfl
  rw [le_div_iff₀ hpos, div_le_iff₀ hpos, lt_div_iff₀ hpos, div_lt_iff₀ hpos, Interval.contains,
    hmantissa]
  norm_cast
  rcases Nat.mod_two_eq_zero_or_one m with hm | hm
  · simp [hm]
  · simp only [hm, Nat.one_ne_zero, if_false, Bool.and_eq_true, decide_eq_true_eq, forall_const]
    exact ⟨fun h => ⟨h.1.le, h.2.le, h⟩, fun h => h.2.2⟩

/-- What an interval contains lies near its double. -/
theorem near_of_contains (hm : 0 < m) {num den : ℕ} (hden : 0 < den)
    (h : (Interval.ofParts m e).contains num den = true) : Near m e ((num : ℚ) / den / 4) := by
  obtain ⟨hlow, hhigh, hodd⟩ := (contains_iff m e num hden).1 h
  generalize (num : ℚ) / den = q at hlow hhigh hodd ⊢
  rcases low_ofParts m e with ⟨hl, hpow⟩ | ⟨hl, hpow⟩
  · rw [hl, Nat.cast_sub (by omega)] at hlow hodd
    push_cast at hlow hodd
    refine ⟨by linarith, by linarith, fun h => ?_, fun _ _ => by linarith⟩
    constructor <;> linarith [hodd h]
  · rw [hl, Nat.cast_sub (by omega)] at hlow hodd
    push_cast at hlow hodd
    refine ⟨by linarith, by linarith, fun h => ?_, fun h₁ h₂ => absurd ⟨h₁, h₂⟩ hpow⟩
    constructor <;> linarith [hodd h]

/-- The step of a grid in quarters of the last place. -/
theorem step_div_quarter (m : ℕ) (e k : ℤ) :
    ((Interval.ofParts m e).step k : ℚ) / (Interval.ofParts m e).quarter k =
      10 ^ k / 2 ^ (e - 2) := by
  rw [show (10 : ℚ) = (10 : ℕ) from rfl, show (2 : ℚ) = (2 : ℕ) from rfl,
    zpow_eq_div 10 (by norm_num), zpow_eq_div 2 (by norm_num), div_div_div_eq]
  rw [Interval.step, Interval.quarter]
  push_cast
  rfl

/-- A decimal on a grid, in quarters of the last place. -/
theorem decimal_quarters (n : ℕ) (k : ℤ) :
    ((n * (Interval.ofParts m e).step k : ℕ) : ℚ) / (Interval.ofParts m e).quarter k =
      n * 10 ^ k / 2 ^ (e - 2) := by
  rw [Nat.cast_mul, mul_div_assoc, step_div_quarter, mul_div_assoc]

/-- What is found on a grid lies near the double. -/
theorem near_of_onGrid? (hm : 0 < m) {k : ℤ} {d : Decimal}
    (h : (Interval.ofParts m e).onGrid? k = some d) :
    0 < d.significand ∧ Near m e (d.value / 2 ^ e) := by
  obtain ⟨rfl, hd⟩ := Interval.onGrid?_eq_some h
  have hnear := near_of_contains hm (Interval.quarter_pos _ _) hd
  have hvalue : d.value / 2 ^ e =
      ((d.significand * (Interval.ofParts m e).step d.exponent : ℕ) : ℚ) /
        (Interval.ofParts m e).quarter d.exponent / 4 := by
    rw [decimal_quarters, Decimal.value, zpow_sub₀ two_ne_zero]
    field_simp
    norm_num
  rw [← hvalue] at hnear
  refine ⟨Nat.pos_of_ne_zero fun hzero => ?_, hnear⟩
  have hlow := hnear.low
  have hm : (1 : ℚ) ≤ m := by exact_mod_cast hm
  rw [Decimal.value, hzero] at hlow
  norm_num at hlow
  linarith

/-- On a grid whose step is narrower than the neighbourhood, something is found. -/
theorem isSome_onGrid?_of_step_lt (hm : 0 < m) {k : ℤ}
    (hstep : (10 : ℚ) ^ k / 2 ^ (e - 2) < 4)
    (hpow : m = 2 ^ 52 → (10 : ℚ) ^ k / 2 ^ (e - 2) < 3) :
    ((Interval.ofParts m e).onGrid? k).isSome := by
  refine Interval.isSome_onGrid? ?_
  have hq : (0 : ℚ) < (Interval.ofParts m e).quarter k := by exact_mod_cast Interval.quarter_pos _ _
  have hs : (0 : ℚ) < 10 ^ k / 2 ^ (e - 2) := by positivity
  set n := (Interval.ofParts m e).steps k with hn
  have hbelow : (n : ℚ) * 10 ^ k / 2 ^ (e - 2) ≤ 4 * m := by
    rw [← decimal_quarters, div_le_iff₀ hq]
    exact_mod_cast Nat.div_mul_le_self (4 * m * (Interval.ofParts m e).quarter k) _
  have habove : 4 * m < ((n + 1 : ℕ) : ℚ) * 10 ^ k / 2 ^ (e - 2) := by
    rw [← decimal_quarters, lt_div_iff₀ hq]
    exact_mod_cast Nat.lt_mul_of_div_lt (Nat.lt_succ_self n) (Interval.step_pos _ _)
  have hnext : ((n + 1 : ℕ) : ℚ) * 10 ^ k / 2 ^ (e - 2) =
      n * 10 ^ k / 2 ^ (e - 2) + 10 ^ k / 2 ^ (e - 2) := by
    push_cast
    ring
  have hlow : ((Interval.ofParts m e).low : ℚ) < 4 * m ∧
      (Interval.ofParts m e).low + (10 : ℚ) ^ k / 2 ^ (e - 2) < 4 * m + 2 := by
    rcases low_ofParts m e with ⟨hl, hm, -⟩ | ⟨hl, -⟩ <;> rw [hl, Nat.cast_sub (by omega)] <;>
      push_cast
    · exact ⟨by linarith, by linarith [hpow hm]⟩
    · exact ⟨by linarith, by linarith⟩
  rw [contains_iff m e _ (Interval.quarter_pos _ _), contains_iff m e _ (Interval.quarter_pos _ _),
    decimal_quarters, decimal_quarters]
  rw [hnext] at habove ⊢
  generalize (n : ℚ) * 10 ^ k / 2 ^ (e - 2) = b at hbelow habove ⊢
  by_cases h : ((Interval.ofParts m e).low : ℚ) < b
  · exact .inl ⟨h.le, by linarith, fun _ => ⟨h, by linarith⟩⟩
  · exact .inr ⟨by linarith, by linarith, fun _ => ⟨by linarith, by linarith⟩⟩

end Grid

/-! ## The search -/

theorem pow_digitCount_le {n : ℕ} (hn : 0 < n) : 10 ^ (digitCount n - 1) ≤ n := by
  by_contra! h
  rcases Nat.eq_zero_or_pos (digitCount n - 1) with hk | hk
  · rw [hk, pow_zero] at h
    omega
  · have hle := (Nat.length_toDigits_le_iff (by norm_num) hk).2 h
    rw [← digitCount] at hle
    omega

theorem exists_digitCount (n : ℕ) : ∃ k, digitCount n = k + 1 :=
  ⟨_, (Nat.sub_add_cancel Nat.length_toDigits_pos).symm⟩

theorem lt_pow_digitCount (n : ℕ) : n < 10 ^ digitCount n :=
  (Nat.length_toDigits_le_iff (by norm_num) Nat.length_toDigits_pos).1 le_rfl

/-- A fraction reaches the power of ten below its magnitude. -/
theorem pow_magnitude_le {num den : ℕ} (hnum : 0 < num) (hden : 0 < den) :
    (10 : ℚ) ^ (magnitude num den - 1) ≤ num / den := by
  have hn : (0 : ℚ) < num := by exact_mod_cast hnum
  have hd : (0 : ℚ) < den := by exact_mod_cast hden
  rw [le_div_iff₀ hd, magnitude]
  dsimp only
  split_ifs with hle heq
  · have hq : 0 < num / den := Nat.div_pos hle hden
    have hpow := pow_digitCount_le hq
    obtain ⟨k, hk⟩ := exists_digitCount (num / den)
    rw [hk] at hpow ⊢
    rw [Nat.cast_succ, add_sub_cancel_right, zpow_natCast]
    exact_mod_cast (Nat.mul_le_mul_right den hpow).trans (Nat.div_mul_le_self num den)
  · obtain ⟨k, hk⟩ := exists_digitCount (den / num)
    rw [hk, Nat.add_sub_cancel] at heq
    rw [hk, show (2 - ((k + 1 : ℕ) : ℤ) - 1) = -(k : ℤ) by omega, zpow_neg, zpow_natCast, heq]
    push_cast
    field_simp
    simp
  · have hlt := (Nat.div_lt_iff_lt_mul hnum).1 (lt_pow_digitCount (den / num))
    rw [show (1 - (digitCount (den / num) : ℤ) - 1) = -(digitCount (den / num) : ℤ) by omega,
      zpow_neg, zpow_natCast, inv_mul_le_iff₀ (by positivity)]
    exact_mod_cast hlt.le

theorem value_strip (fuel : ℕ) (d : Decimal) : (strip fuel d).value = d.value := by
  induction fuel generalizing d with
  | zero => rfl
  | succ fuel ih =>
    rw [strip]
    split_ifs with h
    · have hten : (d.significand : ℚ) = ((d.significand / 10 : ℕ) : ℚ) * 10 := by
        exact_mod_cast (Nat.div_mul_cancel (Nat.dvd_of_mod_eq_zero h.2)).symm
      rw [ih, Decimal.value, Decimal.value, hten, zpow_add_one₀ (by norm_num)]
      ring
    · rfl

theorem significand_strip (fuel : ℕ) {d : Decimal} (hd : 0 < d.significand) :
    0 < (strip fuel d).significand := by
  induction fuel generalizing d with
  | zero => exact hd
  | succ fuel ih =>
    rw [strip]
    split_ifs with h
    · exact ih (by change 0 < d.significand / 10; omega)
    · exact hd

/-- The grid with seventeen digits is finer than the neighbourhood of the double. -/
theorem step_lt_of_magnitude {m : ℕ} {e : ℤ} (hm : m < 2 ^ 53) {top : ℤ}
    (htop : (10 : ℚ) ^ (top - 1) ≤ m * 2 ^ e) :
    (10 : ℚ) ^ (top - 17) / 2 ^ (e - 2) < 4 ∧
      (m = 2 ^ 52 → (10 : ℚ) ^ (top - 17) / 2 ^ (e - 2) < 3) := by
  have hpow : (0 : ℚ) < 2 ^ e := by positivity
  have hstep : (10 : ℚ) ^ (top - 17) / 2 ^ (e - 2) ≤ 4 * m / 10 ^ 16 := by
    rw [div_le_div_iff₀ (by positivity) (by positivity)]
    calc (10 : ℚ) ^ (top - 17) * 10 ^ 16 = 10 ^ (top - 1) := by
          rw [← zpow_natCast, ← zpow_add₀ (by norm_num)]
          congr 1
          push_cast
          ring
      _ ≤ m * 2 ^ e := htop
      _ = 4 * m * 2 ^ (e - 2) := by
        rw [zpow_sub₀ two_ne_zero]
        field_simp
        norm_num
  constructor
  · have hm : (m : ℚ) < 2 ^ 53 := by exact_mod_cast hm
    refine hstep.trans_lt ?_
    rw [div_lt_iff₀ (by positivity)]
    calc (4 : ℚ) * m < 4 * 2 ^ 53 := by linarith
      _ < 4 * 10 ^ 16 := by norm_num
  · rintro rfl
    refine hstep.trans_lt ?_
    norm_num

/-- The decimal that is written for a positive double lies near it. -/
theorem near_ofParts {m : ℕ} {e : ℤ} (hc : Canonical m e) (negative : Bool) :
    0 < (ofParts ⟨negative, m, e⟩).significand ∧
      Near m e ((ofParts ⟨negative, m, e⟩).value / 2 ^ e) := by
  set p : Parts := ⟨negative, m, e⟩ with hp
  have hfraction : (p.fraction.1 : ℚ) / p.fraction.2 = m * 2 ^ e := fraction_eq p
  have hnum : 0 < p.fraction.1 := Nat.mul_pos hc.pos (Nat.pow_pos two_pos)
  have hden : 0 < p.fraction.2 := Nat.pow_pos two_pos
  have htop := pow_magnitude_le hnum hden
  rw [hfraction] at htop
  obtain ⟨hstep, hpower⟩ := step_lt_of_magnitude hc.lt htop
  have hsome : ((List.range 17).findSome? fun n : ℕ => (Interval.ofParts m e).onGrid?
      (magnitude p.fraction.1 p.fraction.2 - 1 - n)).isSome := by
    rw [List.isSome_findSome?, List.any_eq_true]
    refine ⟨16, by simp, ?_⟩
    rw [sub_sub]
    exact isSome_onGrid?_of_step_lt hc.pos hstep hpower
  obtain ⟨d, hd⟩ := Option.isSome_iff_exists.1 hsome
  obtain ⟨n, -, hn⟩ := List.exists_of_findSome?_eq_some hd
  obtain ⟨hpos, hnear⟩ := near_of_onGrid? hc.pos hn
  have hof : ofParts p = strip 17 d := by
    rw [ofParts, if_neg hc.pos.ne']
    simp only [hp] at hd ⊢
    rw [hd]
  rw [hof, value_strip]
  exact ⟨significand_strip 17 hpos, hnear⟩

end Promptbook.Shortest
