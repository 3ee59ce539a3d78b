import Mathlib
import Promptbook.Number.Double

/-!
# Rounding to doubles

A mantissa with a round bit and a sticky bit stands for every number between it and the next
mantissa that rounds the same way.  Shifting keeps what it stands for, so that a product or a
quotient rounds to the double whose neighbourhood it lies in.
-/

namespace Promptbook.Double

open Float.Model Float.Model.UnpackedFloat

/-! ## Round and sticky bits -/

/-- The numbers that a mantissa with its two residual bits stands for. -/
def Stands (em : ExtendedMantissa) (y : ℚ) : Prop :=
  match em.roundBit, em.stickyBit with
  | false, false => y = em.mantissa
  | false, true => em.mantissa < y ∧ y < em.mantissa + 1 / 2
  | true, false => y = em.mantissa + 1 / 2
  | true, true => em.mantissa + 1 / 2 < y ∧ y < em.mantissa + 1

theorem Stands.le {em : ExtendedMantissa} {y : ℚ} (h : Stands em y) : (em.mantissa : ℚ) ≤ y := by
  obtain ⟨m, r, s⟩ := em
  cases r <;> cases s <;> simp only [Stands] at h <;> linarith

theorem Stands.lt {em : ExtendedMantissa} {y : ℚ} (h : Stands em y) :
    y < (em.mantissa : ℚ) + 1 := by
  obtain ⟨m, r, s⟩ := em
  cases r <;> cases s <;> simp only [Stands] at h <;> linarith

/-- A shift by one place halves what a mantissa stands for. -/
theorem Stands.shiftRightOne {em : ExtendedMantissa} {y : ℚ} (h : Stands em y) :
    Stands em.shiftRightOne (y / 2) := by
  obtain ⟨m, r, s⟩ := em
  have hm : (2 : ℚ) * ((m / 2 : ℕ) : ℚ) + ((m % 2 : ℕ) : ℚ) = m := by
    exact_mod_cast Nat.div_add_mod m 2
  rcases Nat.mod_two_eq_zero_or_one m with hbit | hbit <;> cases r <;> cases s <;>
    simp only [Stands, ExtendedMantissa.shiftRightOne, hbit, Nat.cast_zero, Nat.cast_one,
      Bool.or_false, Bool.or_true, bne_self_eq_false, show (1 != 0) = true from rfl] at h hm ⊢ <;>
    first | linarith | constructor <;> linarith

theorem Stands.shiftRight {em : ExtendedMantissa} {y : ℚ} (h : Stands em y) (k : ℕ) :
    Stands (em >>> k) (y / 2 ^ k) := by
  change Stands (k.repeat ExtendedMantissa.shiftRightOne em) _
  induction k with
  | zero => simpa [Nat.repeat] using h
  | succ k ih =>
    rw [pow_succ, ← div_div]
    exact ih.shiftRightOne

/-- What lies within half a unit of a mantissa rounds to it, a tie only to an even one. -/
theorem Stands.rounded {em : ExtendedMantissa} {y : ℚ} (h : Stands em y) {m : ℕ}
    (hlow : (m : ℚ) - 1 / 2 ≤ y) (hhigh : y ≤ m + 1 / 2)
    (hodd : m % 2 = 1 → (m : ℚ) - 1 / 2 < y ∧ y < m + 1 / 2) : em.roundedMantissa = m := by
  obtain ⟨n, r, s⟩ := em
  have hle := h.le
  have hlt := h.lt
  have hnm : n < m + 1 := by
    have : (n : ℚ) < m + 1 := by linarith
    exact_mod_cast this
  have hmn : m ≤ n + 1 := by
    have : (m : ℚ) < n + 2 := by linarith
    have : m < n + 2 := by exact_mod_cast this
    omega
  rcases Nat.mod_two_eq_zero_or_one m with hm | hm <;>
    rcases (by omega : m = n ∨ m = n + 1) with rfl | rfl <;> cases r <;> cases s <;>
    simp only [Stands, ExtendedMantissa.roundedMantissa, ExtendedMantissa.accuracy,
      Accuracy.roundToNearestEven, Nat.cast_add, Nat.cast_one] at h hlow hhigh hodd ⊢ <;>
    first
    | omega
    | linarith
    | (obtain ⟨hlow, hhigh⟩ := hodd hm; linarith)

/-! ## Rounding into a neighbourhood -/

/-- The mantissa and the exponent of a positive double. -/
structure Canonical (m : ℕ) (e : ℤ) : Prop where
  pos : 0 < m
  lt : m < 2 ^ 53
  least : -1074 ≤ e
  normal : -1074 < e → 2 ^ 52 ≤ m

/-- A number, in units of the last place, in the neighbourhood of a double.  Below a power of two
the neighbourhood is smaller. -/
structure Near (m : ℕ) (e : ℤ) (y : ℚ) : Prop where
  low : (m : ℚ) - 1 / 2 ≤ y
  high : y ≤ m + 1 / 2
  odd : m % 2 = 1 → (m : ℚ) - 1 / 2 < y ∧ y < m + 1 / 2
  power : m = 2 ^ 52 → -1074 < e → (m : ℚ) - 1 / 4 ≤ y

theorem targetExponent_eq (m : ℕ) (e : ℤ) :
    Format.binary64.targetExponent (totalExponent m e) = max (m.log2 + e - 52) (-1074) := by
  simp only [Format.targetExponent, totalExponent, Format.mantissaBits, Format.minExponent]
  norm_num
  omega

/-- A mantissa of the right length stays as it is. -/
theorem shift_self {m : ℕ} {e : ℤ} (hm : m < 2 ^ 53) (he : -1074 ≤ e) :
    shiftToTargetExponent Format.binary64 m e .exact = (⟨m, false, false⟩, e) := by
  have hlog : m.log2 ≤ 52 := by
    rcases Nat.eq_zero_or_pos m with rfl | hpos
    · simp
    · have := (Nat.log2_lt hpos.ne').2 hm
      omega
  have hshift : (max ((m.log2 : ℤ) + e - 52) (-1074) - e).toNat = 0 := by omega
  rw [shiftToTargetExponent, targetExponent_eq, shiftToExponent, hshift]
  simp only [Nat.cast_zero, add_zero]
  rfl

/-- A mantissa that has become one place too long is shifted by that place. -/
theorem shift_carry {e : ℤ} (he : -1074 ≤ e) :
    shiftToTargetExponent Format.binary64 (2 ^ 53) e .exact =
      (⟨2 ^ 52, false, false⟩, e + 1) := by
  have hshift : (max (((2 ^ 53 : ℕ).log2 : ℤ) + e - 52) (-1074) - e).toNat = 1 := by
    rw [Nat.log2_two_pow]
    omega
  rw [shiftToTargetExponent, targetExponent_eq, shiftToExponent, hshift]
  rfl

/-- The first shift brings a mantissa to the exponent of the doubles of its size. -/
theorem stands_shift {M : ℕ} {E : ℤ} {a : Accuracy} {v : ℚ}
    (hv : Stands (.ofMantissaAndAccuracy M a) (v / 2 ^ E)) {t : ℤ} (ht : E ≤ t) :
    ∃ em, shiftToExponent M E a t = (em, t) ∧ Stands em (v / 2 ^ t) := by
  obtain ⟨k, rfl⟩ : ∃ k : ℕ, t = E + k := ⟨(t - E).toNat, by omega⟩
  refine ⟨ExtendedMantissa.ofMantissaAndAccuracy M a >>> k, ?_, ?_⟩
  · rw [shiftToExponent, show (E + (k : ℤ) - E).toNat = k by omega]
  · rw [zpow_add₀ two_ne_zero, zpow_natCast, ← div_div]
    exact hv.shiftRight k

theorem mantissa_ofMantissaAndAccuracy (M : ℕ) (a : Accuracy) :
    (ExtendedMantissa.ofMantissaAndAccuracy M a).mantissa = M := by
  rcases a with _ | o
  · rfl
  · cases o <;> rfl

/-- A number has the size of its leading digits. -/
theorem lt_two_zpow {M : ℕ} {E : ℤ} {v : ℚ} (h : v / 2 ^ E < M + 1) :
    v < 2 ^ ((M.log2 : ℤ) + E + 1) := by
  have hM : ((M : ℚ) + 1) ≤ 2 ^ (M.log2 + 1) := by exact_mod_cast Nat.lt_log2_self
  rw [div_lt_iff₀ (by positivity)] at h
  calc v < (M + 1) * 2 ^ E := h
    _ ≤ 2 ^ (M.log2 + 1) * 2 ^ E := mul_le_mul_of_nonneg_right hM (by positivity)
    _ = 2 ^ ((M.log2 : ℤ) + E + 1) := by
      rw [← zpow_natCast, ← zpow_add₀ two_ne_zero]
      congr 1
      push_cast
      ring

theorem two_zpow_le {M : ℕ} (hM : M ≠ 0) {E : ℤ} {v : ℚ} (h : (M : ℚ) ≤ v / 2 ^ E) :
    2 ^ ((M.log2 : ℤ) + E) ≤ v := by
  have hlog : (2 : ℚ) ^ M.log2 ≤ M := by exact_mod_cast Nat.log2_self_le hM
  rw [le_div_iff₀ (by positivity)] at h
  calc (2 : ℚ) ^ ((M.log2 : ℤ) + E) = 2 ^ M.log2 * 2 ^ E := by
        rw [zpow_add₀ two_ne_zero, zpow_natCast]
    _ ≤ M * 2 ^ E := mul_le_mul_of_nonneg_right hlog (by positivity)
    _ ≤ v := h

section Near

variable {m M : ℕ} {e E : ℤ} {v : ℚ}

/-- A number near a double is smaller than the next power of two. -/
theorem Near.lt (hm : m < 2 ^ 53) (h : Near m e (v / 2 ^ e)) : v < 2 ^ (e + 53) := by
  have hm : (m : ℚ) + 1 ≤ 2 ^ 53 := by exact_mod_cast hm
  have hlt : v / 2 ^ e < 2 ^ 53 := by linarith [h.high]
  rw [div_lt_iff₀ (by positivity)] at hlt
  rw [add_comm, zpow_add₀ two_ne_zero]
  exact_mod_cast hlt

/-- A number near a normal double is at least as large as the power of two below it, but for the
neighbourhood below that power itself. -/
theorem Near.le (hm : 2 ^ 52 ≤ m) (h : Near m e (v / 2 ^ e)) :
    2 ^ (e + 52) ≤ v ∨ m = 2 ^ 52 ∧ 2 ^ (e + 51) ≤ v := by
  have hpow : ∀ k : ℕ, (2 : ℚ) ^ (e + k) = 2 ^ k * 2 ^ e := fun k => by
    rw [add_comm, zpow_add₀ two_ne_zero, zpow_natCast]
  have hlow := h.low
  rcases hm.lt_or_eq with hlt | rfl
  · left
    have hm : (2 : ℚ) ^ 52 + 1 ≤ m := by exact_mod_cast hlt
    rw [show (52 : ℤ) = ((52 : ℕ) : ℤ) from rfl, hpow, ← le_div_iff₀ (by positivity)]
    linarith
  · right
    refine ⟨rfl, ?_⟩
    rw [show (51 : ℤ) = ((51 : ℕ) : ℤ) from rfl, hpow, ← le_div_iff₀ (by positivity)]
    push_cast at hlow
    linarith

/-- The exponent at which a number near a double is rounded: that of the double, or the one below
it for a number that is smaller than the power of two which the double is. -/
theorem targetExponent_of_near (hc : Canonical m e) (hn : Near m e (v / 2 ^ e))
    (hlow : (M : ℚ) ≤ v / 2 ^ E) (hhigh : v / 2 ^ E < M + 1)
    (hE : E ≤ max ((M.log2 : ℤ) + E - 52) (-1074)) :
    max ((M.log2 : ℤ) + E - 52) (-1074) = e ∨
      max ((M.log2 : ℤ) + E - 52) (-1074) = e - 1 ∧ m = 2 ^ 52 ∧ -1074 < e ∧ v < 2 ^ (e + 52) := by
  have hleast := hc.least
  have hlt := lt_two_zpow hhigh
  have htop : max ((M.log2 : ℤ) + E - 52) (-1074) ≤ e := by
    rcases Nat.eq_zero_or_pos M with rfl | hM
    · simp only [Nat.log2_zero, Nat.cast_zero] at hE ⊢
      omega
    · have hpow := (two_zpow_le hM.ne' hlow).trans_lt (hn.lt hc.lt)
      rw [zpow_lt_zpow_iff_right₀ one_lt_two] at hpow
      omega
  rcases hleast.eq_or_lt with rfl | hnormal
  · left
    omega
  · rcases hn.le (hc.normal hnormal) with hle | ⟨hm, hle⟩
    · left
      have hpow := hle.trans_lt hlt
      rw [zpow_lt_zpow_iff_right₀ one_lt_two] at hpow
      omega
    · have hpow := hle.trans_lt hlt
      rw [zpow_lt_zpow_iff_right₀ one_lt_two] at hpow
      by_cases he : max ((M.log2 : ℤ) + E - 52) (-1074) = e
      · exact .inl he
      · refine .inr ⟨by omega, hm, hnormal, hlt.trans_le ?_⟩
        exact zpow_le_zpow_right₀ one_le_two (by omega)

/-- What lies near a double rounds to it. -/
theorem roundWithAccuracy_of_near (hc : Canonical m e) (hn : Near m e (v / 2 ^ e)) {a : Accuracy}
    (hv : Stands (.ofMantissaAndAccuracy M a) (v / 2 ^ E))
    (hE : E ≤ max ((M.log2 : ℤ) + E - 52) (-1074)) (s : Sign) :
    roundWithAccuracy .binary64 s M E a = .finite s m e hc.pos := by
  have hlow := hv.le
  have hhigh := hv.lt
  rw [mantissa_ofMantissaAndAccuracy] at hlow hhigh
  obtain ⟨em, hem, hst⟩ := stands_shift hv hE
  have hfirst : shiftToTargetExponent .binary64 M E a =
      (em, max ((M.log2 : ℤ) + E - 52) (-1074)) := by
    rw [shiftToTargetExponent, targetExponent_eq, hem]
  rcases targetExponent_of_near hc hn hlow hhigh hE with he | ⟨he, rfl, hleast, hlt⟩
  · rw [he] at hfirst hst
    have hr : em.roundedMantissa = m := hst.rounded hn.low hn.high hn.odd
    have hm : m ≠ 0 := hc.pos.ne'
    simp [roundWithAccuracy, hfirst, hr, shift_self hc.lt hc.least, hm]
  · -- Rounding carries into a further place, by which the mantissa is shifted once more.
    rw [he] at hfirst hst
    have hr : em.roundedMantissa = 2 ^ 53 := by
      have hquarter := hn.power rfl hleast
      rw [zpow_add₀ two_ne_zero, mul_comm, ← div_lt_iff₀ (by positivity)] at hlt
      have hdouble : v / 2 ^ (e - 1) = 2 * (v / 2 ^ e) := by
        rw [zpow_sub_one₀ two_ne_zero]
        field_simp
      rw [hdouble] at hst
      push_cast at hquarter
      norm_num at hquarter hlt
      refine hst.rounded ?_ ?_ fun hodd => absurd hodd (by decide)
      · push_cast
        linarith
      · push_cast
        linarith
    have hcarry := shift_carry (e := e - 1) (by omega)
    rw [sub_add_cancel] at hcarry
    simp only [roundWithAccuracy, hfirst, hr, hcarry]
    rfl

end Near

/-! ## Decimals -/

theorem stands_exact (M : ℕ) : Stands (.ofMantissaAndAccuracy M .exact) (M : ℚ) := rfl

/-- The remainder of a division tells on which side of the middle the quotient lies. -/
theorem stands_div (num : ℕ) {den : ℕ} (hden : 0 < den) :
    Stands (.ofMantissaAndAccuracy (num / den) (accuracyOfFraction (num % den) den))
      ((num : ℚ) / den) := by
  have hpos : (0 : ℚ) < den := by exact_mod_cast hden
  have hrest : num % den < den := Nat.mod_lt num hden
  have hsplit : (num : ℚ) / den = (num / den : ℕ) + ((num % den : ℕ) : ℚ) / den := by
    have hcast : ((den * (num / den) + num % den : ℕ) : ℚ) = num := by rw [Nat.div_add_mod]
    rw [← hcast]
    push_cast
    field_simp
  rw [hsplit, accuracyOfFraction]
  generalize num / den = q, num % den = r at hrest ⊢
  have hlt : (r : ℚ) / den < 1 := by
    rw [div_lt_one hpos]
    exact_mod_cast hrest
  split_ifs with hr
  · rw [hr, Nat.cast_zero, zero_div, add_zero]
    rfl
  · have hrpos : (0 : ℚ) < r / den := div_pos (by exact_mod_cast Nat.pos_of_ne_zero hr) hpos
    cases hcmp : compare (2 * r) den with
    | lt =>
      have hhalf : (r : ℚ) / den < 1 / 2 := by
        rw [div_lt_div_iff₀ hpos two_pos, one_mul, mul_comm]
        exact_mod_cast Nat.compare_eq_lt.1 hcmp
      exact ⟨by simpa [ExtendedMantissa.ofMantissaAndAccuracy] using hrpos,
        by simpa [ExtendedMantissa.ofMantissaAndAccuracy] using hhalf⟩
    | eq =>
      have hhalf : (r : ℚ) / den = 1 / 2 := by
        rw [div_eq_div_iff hpos.ne' two_ne_zero, one_mul, mul_comm]
        exact_mod_cast Nat.compare_eq_eq.1 hcmp
      rw [hhalf]
      rfl
    | gt =>
      have hhalf : 1 / 2 < (r : ℚ) / den := by
        rw [div_lt_div_iff₀ two_pos hpos, one_mul, mul_comm]
        exact_mod_cast Nat.compare_eq_gt.1 hcmp
      exact ⟨by simpa [ExtendedMantissa.ofMantissaAndAccuracy] using hhalf,
        by simpa [ExtendedMantissa.ofMantissaAndAccuracy] using hlt⟩

/-- A quotient is divided to as many digits as it takes to round it. -/
theorem exists_divCore {m n : ℕ} (hm : 0 < m) (hn : 0 < n) (e f : ℤ) :
    ∃ q E a, divCore .binary64 m e n f = (q, E, a) ∧
      Stands (.ofMantissaAndAccuracy q a) ((m * 2 ^ e : ℚ) / (n * 2 ^ f) / 2 ^ E) ∧
      E ≤ max ((q.log2 : ℤ) + E - 52) (-1074) := by
  simp only [divCore]
  generalize hE : min (e - f)
    (Format.binary64.targetExponent (totalExponent m e - totalExponent n f)) = E
  obtain ⟨shift, hshift⟩ : ∃ shift : ℕ, e - f - E = shift := ⟨(e - f - E).toNat, by omega⟩
  rw [hshift, Int.toNat_natCast]
  refine ⟨_, _, _, rfl, ?_, ?_⟩
  · have hv : (m * 2 ^ e : ℚ) / (n * 2 ^ f) / 2 ^ E = (m <<< shift : ℕ) / (n : ℕ) := by
      obtain rfl : e = f + E + shift := by omega
      rw [Nat.shiftLeft_eq, zpow_add₀ two_ne_zero, zpow_add₀ two_ne_zero, zpow_natCast]
      push_cast
      field_simp
    rw [hv]
    exact stands_div _ hn
  · by_cases hmin : E ≤ -1074
    · exact hmin.trans (le_max_right _ _)
    · have hsize : (shift : ℤ) ≥ n.log2 + 53 - m.log2 := by
        simp only [Format.targetExponent, totalExponent, Format.mantissaBits,
          Format.minExponent] at hE
        norm_num at hE
        omega
      have hlog : 52 ≤ (m <<< shift / n).log2 := by
        have hlt : n < 2 ^ (n.log2 + 1) := Nat.lt_log2_self
        have hle : 2 ^ m.log2 ≤ m := Nat.log2_self_le hm.ne'
        have hq : 2 ^ 52 ≤ m <<< shift / n := by
          rw [Nat.le_div_iff_mul_le hn, Nat.shiftLeft_eq]
          calc 2 ^ 52 * n ≤ 2 ^ 52 * 2 ^ (n.log2 + 1) := Nat.mul_le_mul_left _ hlt.le
            _ = 2 ^ (52 + (n.log2 + 1)) := (pow_add ..).symm
            _ ≤ 2 ^ (m.log2 + shift) := Nat.pow_le_pow_right two_pos (by omega)
            _ = 2 ^ m.log2 * 2 ^ shift := pow_add ..
            _ ≤ m * 2 ^ shift := Nat.mul_le_mul_right _ hle
        exact (Nat.le_log2 (by omega)).2 hq
      exact le_trans (by omega) (le_max_left _ _)

section Decimal

variable {m : ℕ} {e : ℤ}

theorem Near.le_of_pos {v : ℚ} (hm : 0 < m) (h : Near m e (v / 2 ^ e)) : 2 ^ (e - 1) ≤ v := by
  have hm : (1 : ℚ) ≤ m := by exact_mod_cast hm
  have hlow := h.low
  rw [zpow_sub_one₀ two_ne_zero, mul_comm, ← le_div_iff₀ (by positivity)]
  linarith

variable {s : ℕ} {k : ℤ}

/-- A decimal near a double has no power of ten beyond the reach of doubles. -/
theorem Near.power_le (hc : Canonical m e) (he : e ≤ 971) (hs : 0 < s)
    (hn : Near m e (s * 10 ^ k / 2 ^ e)) : k ≤ 2048 := by
  by_contra! hk
  have hlt := hn.lt hc.lt
  have hs : (1 : ℚ) ≤ s := by exact_mod_cast hs
  have hten : (2 : ℚ) ^ k ≤ 10 ^ k := zpow_le_zpow_left₀ (by omega) two_pos.le (by norm_num)
  have htwo : (2 : ℚ) ^ (e + 53) ≤ 2 ^ k := zpow_le_zpow_right₀ one_le_two (by omega)
  have hpos : (0 : ℚ) < 10 ^ k := by positivity
  nlinarith

theorem Near.le_power (hc : Canonical m e)
    (hn : Near m e (s * 10 ^ k / 2 ^ e)) : -(2048 + (s.log2 : ℤ)) ≤ k := by
  by_contra! hk
  have hle := hn.le_of_pos hc.pos
  have hleast := hc.least
  have hs : (s : ℚ) < 2 ^ (s.log2 + 1) := by exact_mod_cast Nat.lt_log2_self
  have hten : (10 : ℚ) ^ k ≤ 2 ^ k := by
    obtain ⟨n, rfl⟩ : ∃ n : ℕ, k = -n := ⟨k.natAbs, by omega⟩
    rw [zpow_neg, zpow_neg, zpow_natCast, zpow_natCast]
    exact inv_anti₀ (by positivity) (pow_le_pow_left₀ two_pos.le (by norm_num) n)
  have hlt : (s : ℚ) * 10 ^ k < 2 ^ (e - 1) :=
    calc (s : ℚ) * 10 ^ k < 2 ^ (s.log2 + 1) * 10 ^ k :=
          mul_lt_mul_of_pos_right hs (by positivity)
      _ ≤ 2 ^ (s.log2 + 1) * 2 ^ k := mul_le_mul_of_nonneg_left hten (by positivity)
      _ = 2 ^ ((s.log2 : ℤ) + 1 + k) := by
        rw [zpow_add₀ two_ne_zero]
        norm_cast
      _ ≤ 2 ^ (e - 1) := zpow_le_zpow_right₀ one_le_two (by omega)
  exact absurd hle hlt.not_ge

theorem mul_of_near (hc : Canonical m e) (hs : 0 < s) (k : ℕ)
    (hn : Near m e (s * 10 ^ k / 2 ^ e)) :
    roundWithAccuracy .binary64 .positive (s <<< 53 * 10 ^ k) (-53) .exact =
      .finite .positive m e hc.pos := by
  have hpos : 0 < 10 ^ k := Nat.pow_pos (by norm_num)
  have hlog : 53 ≤ (s <<< 53 * 10 ^ k).log2 := by
    rw [Nat.shiftLeft_eq, Nat.le_log2 (Nat.mul_pos (Nat.mul_pos hs (by norm_num)) hpos).ne']
    calc 2 ^ 53 = 1 * 2 ^ 53 * 1 := by norm_num
      _ ≤ s * 2 ^ 53 * 10 ^ k := Nat.mul_le_mul (Nat.mul_le_mul_right _ hs) hpos
  have hst : Stands (.ofMantissaAndAccuracy (s <<< 53 * 10 ^ k) .exact)
      ((s : ℚ) * 10 ^ k / 2 ^ (-53 : ℤ)) := by
    have hv : (s : ℚ) * (10 : ℚ) ^ k / (2 : ℚ) ^ (-53 : ℤ) =
        ((s <<< 53 * 10 ^ k : ℕ) : ℚ) := by
      rw [Nat.shiftLeft_eq, zpow_neg, div_inv_eq_mul]
      push_cast
      ring
    rw [hv]
    exact stands_exact _
  exact roundWithAccuracy_of_near hc hn hst (by omega) _

theorem div_of_near (hc : Canonical m e) (hs : 0 < s) (k : ℕ)
    (hn : Near m e (s / 10 ^ k / 2 ^ e)) (h₁ h₂) :
    UnpackedFloat.div .binary64 (.finite .positive s 0 h₁) (.finite .positive (10 ^ k) 0 h₂) =
      .finite .positive m e hc.pos := by
  obtain ⟨q, E, a, hcore, hst, hE⟩ := exists_divCore hs h₂ 0 0
  simp only [UnpackedFloat.div, hcore]
  refine roundWithAccuracy_of_near hc hn ?_ hE _
  simpa using hst

/-- A decimal near a double is rounded to it. -/
theorem ofScientific_of_near (hc : Canonical m e) (he : e ≤ 971) (hs : 0 < s)
    (hn : Near m e (s * 10 ^ k / 2 ^ e)) :
    UnpackedFloat.ofScientific .binary64 s k = .finite .positive m e hc.pos := by
  have hle := hn.power_le hc he hs
  have hge := hn.le_power hc
  have hlimit : ((2 : ℤ) ^ Format.binary64.exponentBits) = 2048 := by norm_num
  rw [UnpackedFloat.ofScientific, dif_neg hs.ne', hlimit, if_neg (by omega), if_neg (by omega)]
  split_ifs with hk
  · obtain ⟨n, rfl⟩ := Int.eq_ofNat_of_zero_le hk
    exact mul_of_near hc hs n (by simpa using hn)
  · obtain ⟨n, rfl⟩ : ∃ n : ℕ, k = -n := ⟨k.natAbs, by omega⟩
    rw [zpow_neg, ← div_eq_mul_inv, zpow_natCast] at hn
    have hdiv := div_of_near hc hs n hn hs (Nat.pow_pos (by norm_num))
    simpa only [neg_neg, Int.toNat_natCast] using hdiv

end Decimal

end Promptbook.Double
