import Promptbook.Proofs.Number.Nonneg

/-!
# Rounding keeps the order

Of two numbers that are not negative the smaller one is not rounded to the larger double: a number
fixes the exponent at which it is rounded, and at one exponent the mantissa grows with the number.
Sums, products and quotients are the exact ones, rounded once, so that they grow with their parts;
and a double is rounded to itself, so that adding what is not negative never gives less, and taking
a share never gives more.
-/

namespace Promptbook.Double

open Float.Model Float.Model.UnpackedFloat

/-! ## The mantissa -/

section Mantissa

variable {em fm : ExtendedMantissa} {y z : ℚ}

/-- What a mantissa with its residual bits stands for lies within half a unit of the mantissa that
it is rounded to, and in the middle between two only when that one is even. -/
theorem Stands.near (h : Stands em y) :
    (em.roundedMantissa : ℚ) - 1 / 2 ≤ y ∧ y ≤ em.roundedMantissa + 1 / 2 ∧
      (em.roundedMantissa % 2 = 1 →
        (em.roundedMantissa : ℚ) - 1 / 2 < y ∧ y < em.roundedMantissa + 1 / 2) := by
  obtain ⟨m, r, s⟩ := em
  cases r <;> cases s <;>
    simp only [Stands, ExtendedMantissa.roundedMantissa, ExtendedMantissa.accuracy,
      Accuracy.roundToNearestEven] at h ⊢
  · subst h
    refine ⟨by linarith, by linarith, fun _ => ⟨by linarith, by linarith⟩⟩
  · refine ⟨by linarith, by linarith, fun _ => ⟨by linarith, by linarith⟩⟩
  · -- A tie goes to the even neighbour.
    rcases Nat.mod_two_eq_zero_or_one m with hm | hm
    · rw [hm, h]
      refine ⟨by push_cast; linarith, by push_cast; linarith, fun hodd => ?_⟩
      omega
    · rw [hm, h]
      refine ⟨by push_cast; linarith, by push_cast; linarith, fun hodd => ?_⟩
      omega
  · push_cast
    refine ⟨by linarith, by linarith, fun _ => ⟨by linarith, by linarith⟩⟩

theorem Stands.roundedMantissa_mono (hy : Stands em y) (hz : Stands fm z) (h : y ≤ z) :
    em.roundedMantissa ≤ fm.roundedMantissa := by
  obtain ⟨hlow, -, hodd⟩ := hy.near
  obtain ⟨-, hhigh, hodd'⟩ := hz.near
  by_contra! hlt
  have hstep : (fm.roundedMantissa : ℚ) + 1 ≤ em.roundedMantissa := by exact_mod_cast hlt
  -- Both are ties then, of neighbours of which one is odd.
  have hnext : em.roundedMantissa = fm.roundedMantissa + 1 := by
    have : (em.roundedMantissa : ℚ) ≤ fm.roundedMantissa + 1 := by linarith
    have : em.roundedMantissa ≤ fm.roundedMantissa + 1 := by exact_mod_cast this
    omega
  rcases Nat.mod_two_eq_zero_or_one fm.roundedMantissa with heven | hodd''
  · have := (hodd (by omega)).1
    linarith
  · have := (hodd' hodd'').2
    linarith

end Mantissa

/-! ## The exponent -/

section Scale

variable {v w : ℚ} {S T : ℤ}

/-- The exponent at which a number is rounded: in units of it the number has 53 binary digits, or
fewer at the least exponent. -/
structure Scale (v : ℚ) (T : ℤ) : Prop where
  least : -1074 ≤ T
  lt : v / 2 ^ T < 2 ^ 53
  normal : -1074 < T → 2 ^ 52 ≤ v / 2 ^ T

theorem Scale.mono (hv : Scale v S) (hw : Scale w T) (h : v ≤ w) : S ≤ T := by
  by_contra! hlt
  have hleast := hw.least
  have hlow := hv.normal (by omega)
  have hhigh := hw.lt
  rw [le_div_iff₀ (by positivity)] at hlow
  rw [div_lt_iff₀ (by positivity)] at hhigh
  have hpow : (2 : ℚ) ^ 53 * 2 ^ T ≤ 2 ^ 52 * 2 ^ S := by
    rw [show (2 : ℚ) ^ 53 = 2 ^ 52 * 2 ^ (1 : ℤ) by norm_num, mul_assoc, ← zpow_add₀ two_ne_zero]
    exact mul_le_mul_of_nonneg_left (zpow_le_zpow_right₀ one_le_two (by omega)) (by positivity)
  linarith

/-- The exponent of a double is the one at which its value is rounded. -/
theorem Canonical.scale {m : ℕ} {e : ℤ} (h : Canonical m e) : Scale (m * 2 ^ e) e := by
  have hcancel : (m : ℚ) * 2 ^ e / 2 ^ e = m := mul_div_cancel_right₀ _ (by positivity)
  refine ⟨h.least, ?_, fun hnormal => ?_⟩
  · rw [hcancel]
    exact_mod_cast h.lt
  · rw [hcancel]
    exact_mod_cast h.normal hnormal

/-- The target exponent of a number is the one at which it is rounded. -/
theorem scale_target {M : ℕ} {E : ℤ} (hlow : (M : ℚ) ≤ v / 2 ^ E) (hhigh : v / 2 ^ E < M + 1)
    (hE : E ≤ max ((M.log2 : ℤ) + E - 52) (-1074)) :
    Scale v (max ((M.log2 : ℤ) + E - 52) (-1074)) := by
  have hleast : -1074 ≤ max ((M.log2 : ℤ) + E - 52) (-1074) := le_max_right ..
  generalize hT : max ((M.log2 : ℤ) + E - 52) (-1074) = T at hE hleast ⊢
  have hpow : ∀ k : ℕ, (2 : ℚ) ^ (T + k) = 2 ^ k * 2 ^ T := fun k => by
    rw [add_comm, zpow_add₀ two_ne_zero, zpow_natCast]
  refine ⟨hleast, ?_, fun hnormal => ?_⟩
  · rw [div_lt_iff₀ (by positivity), ← hpow]
    exact (lt_two_zpow hhigh).trans_le (zpow_le_zpow_right₀ one_le_two (by push_cast; omega))
  · have hM : M ≠ 0 := by
      rintro rfl
      simp only [Nat.log2_zero, Nat.cast_zero] at hT
      omega
    rw [le_div_iff₀ (by positivity), ← hpow]
    exact (zpow_le_zpow_right₀ one_le_two (by push_cast; omega)).trans (two_zpow_le hM hlow)

end Scale

/-! ## The rank of a rounded number -/

/-- The rank of the number with a mantissa at an exponent; a mantissa of one digit too many is that
of the next power of two. -/
def rankAt (r : ℕ) (T : ℤ) : Rank :=
  if r = 0 then toLex (0, toLex (0, 0))
  else if r = 2 ^ 53 then toLex (1, toLex (T + 1, 2 ^ 52))
  else toLex (1, toLex (T, r))

theorem rankAt_mono {q r : ℕ} (h : q ≤ r) (hr : r ≤ 2 ^ 53) (T : ℤ) : rankAt q T ≤ rankAt r T := by
  rw [rankAt, rankAt]
  split_ifs <;> simp [Prod.Lex.toLex_le_toLex] <;> omega

/-- At a larger exponent normal mantissas belong to larger numbers. -/
theorem rankAt_le_of_lt (q : ℕ) {r : ℕ} {S T : ℤ} (hr : 2 ^ 52 ≤ r) (h : S < T) :
    rankAt q S ≤ rankAt r T := by
  have hr' : (2 ^ 52 : ℤ) ≤ r := by exact_mod_cast hr
  rw [rankAt, rankAt]
  split_ifs <;> simp [Prod.Lex.toLex_le_toLex] <;> omega

/-- The rank with numbers beyond the largest double taken for infinite. -/
def capped (a : Rank) : Rank :=
  if toLex (1, toLex (972, 0)) ≤ a then toLex (2, toLex (0, 0)) else a

theorem capped_mono {a b : Rank} (h : a ≤ b) : capped a ≤ capped b := by
  rw [capped, capped]
  split_ifs with ha hb hb
  · exact le_rfl
  · exact absurd (ha.trans h) hb
  · refine (not_le.1 ha).le.trans ?_
    simp [Prod.Lex.toLex_le_toLex]
  · exact h

theorem capped_le (a : Rank) : capped a ≤ toLex (2, toLex (0, 0)) := by
  rw [capped]
  split_ifs with ha
  · exact le_rfl
  · refine (not_le.1 ha).le.trans ?_
    simp [Prod.Lex.toLex_le_toLex]

/-- Whether a number that is not negative, or infinity, is rounded to the double with a rank. -/
def Rounds : WithTop ℚ → Rank → Prop
  | ⊤, a => a = toLex (2, toLex (0, 0))
  | (v : ℚ), a =>
    ∃ T em, Scale v T ∧ Stands em (v / 2 ^ T) ∧ a = capped (rankAt em.roundedMantissa T)

section Rounded

variable {v : ℚ} {T : ℤ} {em : ExtendedMantissa}

theorem roundedMantissa_le (hT : Scale v T) (h : Stands em (v / 2 ^ T)) :
    em.roundedMantissa ≤ 2 ^ 53 := by
  have hlow := h.near.1
  have hlt := hT.lt
  have : (em.roundedMantissa : ℚ) < 2 ^ 53 + 1 := by linarith
  exact Nat.lt_succ_iff.1 (by exact_mod_cast this)

theorem le_roundedMantissa (hT : Scale v T) (h : Stands em (v / 2 ^ T)) (hnormal : -1074 < T) :
    2 ^ 52 ≤ em.roundedMantissa := by
  have hhigh := h.near.2.1
  have hle := hT.normal hnormal
  have : (2 : ℚ) ^ 52 < em.roundedMantissa + 1 := by linarith
  exact Nat.lt_succ_iff.1 (by exact_mod_cast this)

end Rounded

/-- Rounding keeps the order. -/
theorem Rounds.mono {v w : WithTop ℚ} {a b : Rank} (ha : Rounds v a) (hb : Rounds w b)
    (h : v ≤ w) : a ≤ b := by
  induction w using WithTop.recTopCoe with
  | top =>
    obtain rfl := hb
    induction v using WithTop.recTopCoe with
    | top => exact ha.le
    | coe v =>
      obtain ⟨T, em, -, -, rfl⟩ := ha
      exact capped_le _
  | coe w =>
    induction v using WithTop.recTopCoe with
    | top => exact absurd h (WithTop.not_top_le_coe w)
    | coe v =>
      rw [WithTop.coe_le_coe] at h
      obtain ⟨S, em, hS, hem, rfl⟩ := ha
      obtain ⟨T, fm, hT, hfm, rfl⟩ := hb
      apply capped_mono
      rcases (hS.mono hT h).eq_or_lt with rfl | hlt
      · refine rankAt_mono (hem.roundedMantissa_mono hfm ?_) (roundedMantissa_le hT hfm) S
        exact div_le_div_of_nonneg_right h (by positivity)
      · exact rankAt_le_of_lt _ (le_roundedMantissa hT hfm (hS.least.trans_lt hlt)) hlt

/-! ## What is packed -/

section Packed

variable {m M : ℕ} {e E : ℤ} {v : ℚ}

/-- A number beyond the largest double is packed as infinity. -/
theorem unpack_pack_of_large (hm : 0 < m) (he : 971 < e) (s : Sign) :
    (Float.Model.pack (.finite s m e hm)).unpack = .infinity s := by
  change UnpackedFloat.unpack .binary64 (UnpackedFloat.pack .binary64 _) = _
  rw [UnpackedFloat.pack]
  dsimp only
  rw [add_assoc, bias_eq, if_pos (show 2 ^ 11 ≤ (e + 1075).toNat + 1 by omega)]
  cases s <;> rfl

theorem rank?_unpack_pack (h : Canonical m e) :
    rank? (Float.Model.pack (.finite .positive m e h.pos)).unpack =
      some (capped (toLex (1, toLex (e, (m : ℤ))))) := by
  rw [capped]
  split_ifs with hlarge
  · have he : 971 < e := by
      simp [Prod.Lex.toLex_le_toLex] at hlarge
      omega
    rw [unpack_pack_of_large h.pos he]
    rfl
  · have he : e ≤ 971 := by
      simp [Prod.Lex.toLex_le_toLex] at hlarge
      omega
    rw [unpack_pack _ h he]
    rfl

/-- A mantissa of any length is rounded at its exponent. -/
theorem exists_rounds_roundWithAccuracy {a : Accuracy}
    (hv : Stands (.ofMantissaAndAccuracy M a) (v / 2 ^ E))
    (hE : E ≤ max ((M.log2 : ℤ) + E - 52) (-1074)) :
    ∃ r ∈ rank? (Float.Model.pack (roundWithAccuracy .binary64 .positive M E a)).unpack,
      Rounds v r := by
  have hlow := hv.le
  have hhigh := hv.lt
  rw [mantissa_ofMantissaAndAccuracy] at hlow hhigh
  obtain ⟨em, hem, hst⟩ := stands_shift hv hE
  have hT := scale_target hlow hhigh hE
  have hfirst : shiftToTargetExponent .binary64 M E a =
      (em, max ((M.log2 : ℤ) + E - 52) (-1074)) := by
    rw [shiftToTargetExponent, targetExponent_eq, hem]
  generalize max ((M.log2 : ℤ) + E - 52) (-1074) = T at hfirst hst hT
  refine ⟨_, ?_, T, em, hT, hst, rfl⟩
  have hmost := roundedMantissa_le hT hst
  rw [rankAt]
  split_ifs with hzero hcarry
  · have hround : roundWithAccuracy .binary64 .positive M E a = .zero .positive := by
      simp [roundWithAccuracy, hfirst, hzero, shift_self (show 0 < 2 ^ 53 by norm_num) hT.least]
    rw [hround]
    rfl
  · have hn : Canonical (2 ^ 52) (T + 1) :=
      ⟨by norm_num, by norm_num, by linarith [hT.least], fun _ => le_rfl⟩
    have hround : roundWithAccuracy .binary64 .positive M E a =
        .finite .positive (2 ^ 52) (T + 1) hn.pos := by
      simp only [roundWithAccuracy, hfirst, hcarry, shift_carry hT.least]
      rfl
    rw [hround, rank?_unpack_pack hn]
    rfl
  · have hn : Canonical em.roundedMantissa T :=
      ⟨Nat.pos_of_ne_zero hzero, by omega, hT.least, le_roundedMantissa hT hst⟩
    have hround : roundWithAccuracy .binary64 .positive M E a =
        .finite .positive em.roundedMantissa T hn.pos := by
      simp [roundWithAccuracy, hfirst, shift_self hn.lt hT.least, hzero]
    rw [hround, rank?_unpack_pack hn]
    rfl

end Packed

/-! ## Sums and products -/

section Unpacked

variable {m n M : ℕ} {E : ℤ}

/-- A shift to the left adds as many digits. -/
theorem log2_shiftLeft (hM : M ≠ 0) (k : ℕ) : (M <<< k).log2 = M.log2 + k := by
  induction k with
  | zero => simp
  | succ k ih =>
    have hk : M <<< k ≠ 0 := by simpa [Nat.shiftLeft_eq] using hM
    rw [Nat.shiftLeft_succ, Nat.log2_two_mul hk, ih, add_assoc]

theorem exists_rounds_round (hM : M ≠ 0) (E : ℤ) :
    ∃ r ∈ rank? (Float.Model.pack (UnpackedFloat.round .binary64 .positive M E)).unpack,
      Rounds ((M * 2 ^ E : ℚ) : WithTop ℚ) r := by
  simp only [UnpackedFloat.round, decreaseExponent, targetExponent_eq]
  generalize hT : max ((M.log2 : ℤ) + E - 52) (-1074) = T
  obtain ⟨k, hk⟩ : ∃ k, k = (E - T).toNat := ⟨_, rfl⟩
  rw [← hk]
  have hlog : (M <<< k).log2 = M.log2 + k := log2_shiftLeft hM k
  refine exists_rounds_roundWithAccuracy (v := M * 2 ^ E) ?_ (by rw [hlog]; push_cast; omega)
  have hvalue : (M * 2 ^ E : ℚ) / 2 ^ (E - k) = (M <<< k : ℕ) := by
    rw [zpow_sub₀ two_ne_zero, zpow_natCast, Nat.shiftLeft_eq]
    push_cast
    field_simp
  rw [hvalue]
  exact stands_exact _

/-- A number of units of the last place, in smaller units. -/
theorem shiftLeft_zpow (m : ℕ) {e g : ℤ} (h : g ≤ e) :
    ((m <<< (e - g).toNat : ℕ) : ℚ) * 2 ^ g = m * 2 ^ e := by
  obtain ⟨k, rfl⟩ : ∃ k : ℕ, e = g + k := ⟨(e - g).toNat, by omega⟩
  rw [add_sub_cancel_left, Int.toNat_natCast, Nat.shiftLeft_eq, zpow_add₀ two_ne_zero,
    zpow_natCast]
  push_cast
  ring

/-- Positive doubles are added in units of the smaller last place, and the sum is rounded. -/
theorem add_positive (e f : ℤ) (hm : 0 < m) (hn : 0 < n) :
    UnpackedFloat.add .binary64 (.finite .positive m e hm) (.finite .positive n f hn) =
      UnpackedFloat.round .binary64 .positive
        (m <<< (e - min e f).toNat + n <<< (f - min e f).toNat) (min e f) := by
  simp only [UnpackedFloat.add, decreaseExponent, Sign.apply, UnpackedFloat.normalize]
  have hpos : 0 < m <<< (e - min e f).toNat + n <<< (f - min e f).toNat := by
    rw [Nat.shiftLeft_eq]
    positivity
  rw [compare_gt_iff_gt.2 (by exact_mod_cast hpos)]
  rfl

theorem exists_rounds_add_positive (e f : ℤ) (hm : 0 < m) (hn : 0 < n) :
    ∃ r ∈ rank? (Float.Model.pack (UnpackedFloat.add .binary64
        (.finite .positive m e hm) (.finite .positive n f hn))).unpack,
      Rounds ((m * 2 ^ e + n * 2 ^ f : ℚ) : WithTop ℚ) r := by
  have hpos : m <<< (e - min e f).toNat + n <<< (f - min e f).toNat ≠ 0 := by
    rw [Nat.shiftLeft_eq]
    positivity
  obtain ⟨r, hr, hrounds⟩ := exists_rounds_round hpos (min e f)
  rw [← add_positive e f hm hn] at hr
  rw [Nat.cast_add, add_mul, shiftLeft_zpow m (min_le_left e f),
    shiftLeft_zpow n (min_le_right e f)] at hrounds
  exact ⟨r, hr, hrounds⟩

/-- The product of two mantissas has digits enough to be rounded. -/
theorem exists_rounds_mul_positive {e f : ℤ} (hm : Canonical m e) (hn : Canonical n f) :
    ∃ r ∈ rank? (Float.Model.pack (UnpackedFloat.mul .binary64
        (.finite .positive m e hm.pos) (.finite .positive n f hn.pos))).unpack,
      Rounds ((m * 2 ^ e * (n * 2 ^ f) : ℚ) : WithTop ℚ) r := by
  change ∃ r ∈ rank? (Float.Model.pack
    (roundWithAccuracy .binary64 .positive (m * n) (e + f) .exact)).unpack, _
  refine exists_rounds_roundWithAccuracy (v := m * 2 ^ e * (n * 2 ^ f)) ?_ ?_
  · have hvalue : (m * 2 ^ e * (n * 2 ^ f) : ℚ) / 2 ^ (e + f) = (m * n : ℕ) := by
      rw [zpow_add₀ two_ne_zero]
      push_cast
      field_simp
    rw [hvalue]
    exact stands_exact _
  · have hlog : -1074 < e ∨ -1074 < f → 52 ≤ (m * n).log2 := by
      intro h
      rw [Nat.le_log2 (Nat.mul_pos hm.pos hn.pos).ne']
      rcases h with h | h
      · exact (hm.normal h).trans (Nat.le_mul_of_pos_right m hn.pos)
      · exact (hn.normal h).trans (Nat.le_mul_of_pos_left n hm.pos)
    have hleast := hm.least
    have hleast' := hn.least
    by_cases h : -1074 < e ∨ -1074 < f
    · have := hlog h
      omega
    · omega

theorem exists_rounds_div_positive (e f : ℤ) (hm : 0 < m) (hn : 0 < n) :
    ∃ r ∈ rank? (Float.Model.pack (UnpackedFloat.div .binary64
        (.finite .positive m e hm) (.finite .positive n f hn))).unpack,
      Rounds ((m * 2 ^ e / (n * 2 ^ f) : ℚ) : WithTop ℚ) r := by
  obtain ⟨q, E, a, hcore, hst, hE⟩ := exists_divCore hm hn e f
  have hdiv : UnpackedFloat.div .binary64 (.finite .positive m e hm) (.finite .positive n f hn) =
      roundWithAccuracy .binary64 .positive q E a := by
    simp only [UnpackedFloat.div, hcore]
    rfl
  rw [hdiv]
  exact exists_rounds_roundWithAccuracy hst hE

end Unpacked

/-- The value of a double without its sign; what is no number counts as infinite. -/
def magnitude (x : Float) : WithTop ℚ :=
  match x.toModel.unpack with
  | .notANumber | .infinity _ => ⊤
  | .zero _ => 0
  | .finite _ m e _ => ((m * 2 ^ e : ℚ) : WithTop ℚ)

section Float

variable {x y c d : Float}

theorem unpack_pack_unpack (x : Float) :
    (Float.Model.pack x.toModel.unpack).unpack = x.toModel.unpack :=
  congrArg (fun z : Float => z.toModel.unpack) (ofModel_pack_unpack x)

theorem rounds_zero : Rounds 0 (toLex (0, toLex (0, 0))) := by
  refine ⟨-1074, ⟨0, false, false⟩, ⟨le_rfl, ?_, fun h => absurd h (lt_irrefl _)⟩, ?_, ?_⟩
  · rw [zero_div]
    positivity
  · rw [zero_div]
    exact Nat.cast_zero.symm
  · rfl

/-- What is not negative is infinite, zero or a positive number. -/
theorem unpack_cases (hx : 0.0 ≤ x) :
    x.toModel.unpack = .infinity .positive ∧ magnitude x = ⊤ ∨
      (∃ s, x.toModel.unpack = .zero s) ∧ magnitude x = 0 ∨
        ∃ m e, ∃ hc : Canonical m e, e ≤ 971 ∧ x.toModel.unpack = .finite .positive m e hc.pos ∧
          magnitude x = ((m * 2 ^ e : ℚ) : WithTop ℚ) := by
  rw [nonneg_iff] at hx
  rw [magnitude]
  rcases hu : x.toModel.unpack with (_ | _) | _ | s | ⟨_ | _, m, e, hm⟩ <;> rw [hu] at hx
  · exact hx.elim
  · exact .inl ⟨rfl, rfl⟩
  · exact hx.elim
  · exact .inr (.inl ⟨⟨s, rfl⟩, rfl⟩)
  · exact hx.elim
  · obtain ⟨hc, he⟩ := canonical_of_unpack hu
    exact .inr (.inr ⟨m, e, hc, he, rfl, rfl⟩)

/-- A double is rounded to itself. -/
theorem exists_rounds_magnitude (hx : 0.0 ≤ x) :
    ∃ a ∈ rank? x.toModel.unpack, Rounds (magnitude x) a := by
  obtain ⟨hu, hv⟩ | ⟨⟨s, hu⟩, hv⟩ | ⟨m, e, hc, he, hu, hv⟩ := unpack_cases hx <;> rw [hu, hv]
  · exact ⟨_, rfl, rfl⟩
  · exact ⟨_, rfl, rounds_zero⟩
  · have hcancel : (m : ℚ) * 2 ^ e / 2 ^ e = m := mul_div_cancel_right₀ _ (by positivity)
    refine ⟨_, rfl, e, ⟨m, false, false⟩, hc.scale, hcancel, ?_⟩
    have hr : ExtendedMantissa.roundedMantissa ⟨m, false, false⟩ = m := rfl
    rw [hr, rankAt, if_neg hc.pos.ne', if_neg hc.lt.ne, capped, if_neg]
    simp [Prod.Lex.toLex_le_toLex]
    omega

/-- Ranks determine magnitudes. -/
theorem magnitude_congr (hx : 0.0 ≤ x) (hy : 0.0 ≤ y)
    (h : rank? x.toModel.unpack = rank? y.toModel.unpack) : magnitude x = magnitude y := by
  obtain ⟨hu, hv⟩ | ⟨⟨s, hu⟩, hv⟩ | ⟨m, e, hc, he, hu, hv⟩ := unpack_cases hx <;>
    obtain ⟨hu', hv'⟩ | ⟨⟨t, hu'⟩, hv'⟩ | ⟨n, f, hc', hf, hu', hv'⟩ := unpack_cases hy <;>
    rw [hu, hu'] at h <;> simp [rank?] at h <;> rw [hv, hv']
  obtain ⟨rfl, rfl⟩ := h
  rfl

/-- Doubles that are not negative compare as their magnitudes. -/
theorem le_iff_magnitude (hx : 0.0 ≤ x) (hy : 0.0 ≤ y) : x ≤ y ↔ magnitude x ≤ magnitude y := by
  obtain ⟨a, ha, hxa⟩ := exists_rounds_magnitude hx
  obtain ⟨b, hb, hyb⟩ := exists_rounds_magnitude hy
  constructor
  · intro hxy
    obtain ⟨a', ha', b', hb', hab⟩ := le_iff.1 hxy
    obtain rfl := Option.mem_unique ha ha'
    obtain rfl := Option.mem_unique hb hb'
    by_contra! hlt
    obtain rfl := hab.antisymm (hyb.mono hxa hlt.le)
    exact hlt.ne' (magnitude_congr hx hy (ha.trans hb.symm))
  · exact fun hxy => le_iff.2 ⟨a, ha, b, hb, hxa.mono hyb hxy⟩

/-- The sum is the exact one, rounded once. -/
theorem exists_rounds_add (hx : 0.0 ≤ x) (hy : 0.0 ≤ y) :
    ∃ a ∈ rank? (x + y).toModel.unpack, Rounds (magnitude x + magnitude y) a := by
  change ∃ a ∈ rank? (Float.Model.pack
    (UnpackedFloat.add .binary64 x.toModel.unpack y.toModel.unpack)).unpack, _
  have hself := exists_rounds_magnitude hx
  have hself' := exists_rounds_magnitude hy
  rw [← unpack_pack_unpack x] at hself
  rw [← unpack_pack_unpack y] at hself'
  obtain ⟨hu, hv⟩ | ⟨⟨s, hu⟩, hv⟩ | ⟨m, e, hc, -, hu, hv⟩ := unpack_cases hx <;>
    obtain ⟨hu', hv'⟩ | ⟨⟨t, hu'⟩, hv'⟩ | ⟨n, f, hc', -, hu', hv'⟩ := unpack_cases hy <;>
    rw [hu, hv] at hself <;> rw [hu', hv'] at hself' <;> rw [hu, hu', hv, hv']
  · exact hself
  · exact hself
  · exact hself
  · exact hself'
  · rw [add_zero]
    cases s <;> cases t <;> exact ⟨_, rfl, rounds_zero⟩
  · rw [zero_add]
    exact hself'
  · exact hself'
  · rw [add_zero]
    exact hself
  · exact exists_rounds_add_positive e f hc.pos hc'.pos

/-- The product is the exact one, rounded once. -/
theorem exists_rounds_mul (hx : 0.0 ≤ x) {n : ℕ} {f : ℤ} (hn : Canonical n f)
    (hc : c.toModel.unpack = .finite .positive n f hn.pos) :
    ∃ a ∈ rank? (x * c).toModel.unpack,
      Rounds ((magnitude x).map (· * ((n : ℚ) * 2 ^ f))) a := by
  change ∃ a ∈ rank? (Float.Model.pack
    (UnpackedFloat.mul .binary64 x.toModel.unpack c.toModel.unpack)).unpack, _
  rw [hc]
  obtain ⟨hu, hv⟩ | ⟨⟨s, hu⟩, hv⟩ | ⟨m, e, hm, -, hu, hv⟩ := unpack_cases hx <;> rw [hu, hv]
  · have hinfinite : UnpackedFloat.mul .binary64 (.infinity .positive)
        (.finite .positive n f hn.pos) = .infinity .positive := rfl
    rw [hinfinite]
    exact ⟨_, rfl, rfl⟩
  · have hzero : UnpackedFloat.mul .binary64 (.zero s) (.finite .positive n f hn.pos) =
        .zero s := by cases s <;> rfl
    rw [hzero, ← WithTop.coe_zero, WithTop.map_coe, zero_mul]
    cases s <;> exact ⟨_, rfl, rounds_zero⟩
  · exact exists_rounds_mul_positive hm hn

/-- The quotient is the exact one, rounded once. -/
theorem exists_rounds_div (hx : 0.0 ≤ x) {n : ℕ} {f : ℤ} (hn : 0 < n)
    (hc : c.toModel.unpack = .finite .positive n f hn) :
    ∃ a ∈ rank? (x / c).toModel.unpack,
      Rounds ((magnitude x).map (· / ((n : ℚ) * 2 ^ f))) a := by
  change ∃ a ∈ rank? (Float.Model.pack
    (UnpackedFloat.div .binary64 x.toModel.unpack c.toModel.unpack)).unpack, _
  rw [hc]
  obtain ⟨hu, hv⟩ | ⟨⟨s, hu⟩, hv⟩ | ⟨m, e, hm, -, hu, hv⟩ := unpack_cases hx <;> rw [hu, hv]
  · have hinfinite : UnpackedFloat.div .binary64 (.infinity .positive)
        (.finite .positive n f hn) = .infinity .positive := rfl
    rw [hinfinite]
    exact ⟨_, rfl, rfl⟩
  · have hzero : UnpackedFloat.div .binary64 (.zero s) (.finite .positive n f hn) =
        .zero s := by cases s <;> rfl
    rw [hzero, ← WithTop.coe_zero, WithTop.map_coe, zero_div]
    cases s <;> exact ⟨_, rfl, rounds_zero⟩
  · exact exists_rounds_div_positive e f hm.pos hn

/-- Sums grow with their parts. -/
theorem add_mono (hx : 0.0 ≤ x) (hy : 0.0 ≤ y) (hxc : x ≤ c) (hyd : y ≤ d) :
    x + y ≤ c + d := by
  have hc : 0.0 ≤ c := Trans.trans hx hxc
  have hd : 0.0 ≤ d := Trans.trans hy hyd
  obtain ⟨a, ha, hxy⟩ := exists_rounds_add hx hy
  obtain ⟨b, hb, hcd⟩ := exists_rounds_add hc hd
  rw [le_iff_magnitude hx hc] at hxc
  rw [le_iff_magnitude hy hd] at hyd
  refine le_iff.2 ⟨a, ha, b, hb, hxy.mono hcd ?_⟩
  gcongr

theorem magnitude_nonneg (hx : 0.0 ≤ x) : 0 ≤ magnitude x :=
  (le_iff_magnitude (by decide) hx).1 hx

/-- Adding what is not negative never gives less. -/
theorem le_add (hx : 0.0 ≤ x) (hy : 0.0 ≤ y) : x ≤ x + y := by
  obtain ⟨a, ha, hxa⟩ := exists_rounds_magnitude hx
  obtain ⟨b, hb, hxy⟩ := exists_rounds_add hx hy
  exact le_iff.2 ⟨a, ha, b, hb, hxa.mono hxy (le_add_of_nonneg_right (magnitude_nonneg hy))⟩

theorem add_nonneg (hx : 0.0 ≤ x) (hy : 0.0 ≤ y) : 0.0 ≤ x + y := Trans.trans hx (le_add hx hy)

/-- A sum does not fall below its first part. -/
theorem le_foldl_add {ys : List Float} (hx : 0.0 ≤ x) (hys : ∀ y ∈ ys, 0.0 ≤ y) :
    x ≤ ys.foldl (· + ·) x := by
  induction ys generalizing x with
  | nil => exact le_refl (isNaN_of_le hx).2
  | cons y ys ih =>
    rw [List.forall_mem_cons] at hys
    exact Trans.trans (le_add hx hys.1) (ih (add_nonneg hx hys.1) hys.2)

theorem exists_canonical_of_pos (hc : 0.0 < c) (hfinite : c.isFinite = true) :
    ∃ n f, ∃ hn : Canonical n f, c.toModel.unpack = .finite .positive n f hn.pos := by
  obtain ⟨n, f, hn, hu⟩ := exists_of_pos hc hfinite
  exact ⟨n, f, (canonical_of_unpack hu).1, hu⟩

/-- Products grow with their first part. -/
theorem mul_mono (hx : 0.0 ≤ x) (hxy : x ≤ y) (hc : 0.0 < c) (hfinite : c.isFinite = true) :
    x * c ≤ y * c := by
  have hy : 0.0 ≤ y := Trans.trans hx hxy
  obtain ⟨n, f, hn, hu⟩ := exists_canonical_of_pos hc hfinite
  obtain ⟨a, ha, hxc⟩ := exists_rounds_mul hx hn hu
  obtain ⟨b, hb, hyc⟩ := exists_rounds_mul hy hn hu
  rw [le_iff_magnitude hx hy] at hxy
  have hmono : Monotone fun v : ℚ => v * ((n : ℚ) * 2 ^ f) :=
    fun v w h => mul_le_mul_of_nonneg_right h (by positivity)
  exact le_iff.2 ⟨a, ha, b, hb, hxc.mono hyc (hmono.withTop_map hxy)⟩

theorem magnitude_of_unpack {n : ℕ} {f : ℤ} {hn : 0 < n}
    (h : x.toModel.unpack = .finite .positive n f hn) :
    magnitude x = ((n * 2 ^ f : ℚ) : WithTop ℚ) := by
  rw [magnitude, h]

theorem magnitude_one : magnitude 1.0 = 1 := by
  have hu : (1.0 : Float).toModel.unpack = .finite .positive (2 ^ 52) (-52) (by norm_num) := rfl
  rw [magnitude_of_unpack hu]
  norm_num

/-- What is not larger before it is rounded is not larger afterwards. -/
theorem le_of_rounds_map (hx : 0.0 ≤ x) {a : Rank} (ha : a ∈ rank? y.toModel.unpack) {g : ℚ → ℚ}
    (hg : ∀ v, 0 ≤ v → g v ≤ v) (hy : Rounds ((magnitude x).map g) a) : y ≤ x := by
  obtain ⟨b, hb, hxb⟩ := exists_rounds_magnitude hx
  refine le_iff.2 ⟨a, ha, b, hb, hy.mono hxb ?_⟩
  have hzero := magnitude_nonneg hx
  generalize magnitude x = v at hzero
  induction v using WithTop.recTopCoe with
  | top => exact le_top
  | coe v =>
    rw [WithTop.map_coe, WithTop.coe_le_coe]
    exact hg v (by exact_mod_cast hzero)

/-- A share is not larger than the whole. -/
theorem mul_le_self (hx : 0.0 ≤ x) (hc : 0.0 < c) (hle : c ≤ 1.0) : x * c ≤ x := by
  have hfinite : c.isFinite = true :=
    isFinite_of_between (x := 0.0) (z := 1.0) (by decide) (by decide) (Std.le_of_lt hc) hle
  obtain ⟨n, f, hn, hu⟩ := exists_canonical_of_pos hc hfinite
  obtain ⟨a, ha, hxc⟩ := exists_rounds_mul hx hn hu
  have hshare : (n : ℚ) * 2 ^ f ≤ 1 := by
    rw [le_iff_magnitude (Std.le_of_lt hc) (by decide), magnitude_one,
      magnitude_of_unpack hu] at hle
    exact_mod_cast hle
  exact le_of_rounds_map hx ha (fun v hv => mul_le_of_le_one_right hv hshare) hxc

/-- A whole is not smaller than the parts that it is divided into. -/
theorem div_le_self (hx : 0.0 ≤ x) (hc : 1.0 ≤ c) (hfinite : c.isFinite = true) : x / c ≤ x := by
  have hpos : 0.0 < c := Std.lt_of_lt_of_le (by decide) hc
  obtain ⟨n, f, hn, hu⟩ := exists_canonical_of_pos hpos hfinite
  obtain ⟨a, ha, hxc⟩ := exists_rounds_div hx hn.pos hu
  have hmany : 1 ≤ (n : ℚ) * 2 ^ f := by
    rw [le_iff_magnitude (by decide) (Std.le_of_lt hpos), magnitude_one,
      magnitude_of_unpack hu] at hc
    exact_mod_cast hc
  refine le_of_rounds_map hx ha (fun v hv => ?_) hxc
  rw [div_le_iff₀ (by linarith)]
  exact le_mul_of_one_le_right hv hmany

end Float

end Promptbook.Double
