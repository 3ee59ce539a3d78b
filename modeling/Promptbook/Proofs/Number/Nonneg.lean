import Promptbook.Measure
import Promptbook.Proofs.Number.Order
import Promptbook.Proofs.Number.Packing

/-!
# Doubles that are not negative

Products, quotients and lengths of what is not negative are not negative, since rounding keeps the
sign.  A maximum is one of the numbers that it is taken of.
-/

namespace Promptbook.Double

open Float.Model Float.Model.UnpackedFloat

/-! ## Signs -/

/-- The sign of a double, if it is a number. -/
def sign? : UnpackedFloat → Option Sign
  | .notANumber => none
  | .infinity s | .zero s | .finite s .. => some s

theorem sign?_packComponents {e : BitVec 11} (he : e ≠ -1#11) (s : Sign) (m : BitVec 52) :
    sign? (UnpackedFloat.unpack .binary64 (packComponents .binary64 s e m)) = some s := by
  simp only [UnpackedFloat.unpack, unpackExponent_packComponents, unpackMantissa_packComponents,
    unpackSign_packComponents, Sign.ofBitVec_toBitVec, if_neg he]
  split_ifs <;> rfl

/-- A double keeps its sign where it is packed, also one that becomes zero or infinite. -/
theorem sign?_unpack_pack (u : UnpackedFloat) : sign? (Float.Model.pack u).unpack = sign? u := by
  change sign? (UnpackedFloat.unpack .binary64 (UnpackedFloat.pack .binary64 u)) = _
  rcases u with s | _ | s | ⟨s, m, e, hm⟩
  · cases s <;> rfl
  · rfl
  · cases s <;> rfl
  · rw [UnpackedFloat.pack]
    dsimp only
    split_ifs with hlarge
    · cases s <;> rfl
    · refine sign?_packComponents (fun heq => ?_) s _
      have hbits := congrArg BitVec.toNat heq
      rw [BitVec.toNat_ofNat] at hbits
      change _ % 2048 = 2047 at hbits
      change ¬ 2048 ≤ _ at hlarge
      omega
    · exact sign?_packComponents (by decide) s _

theorem sign?_roundWithAccuracy (s : Sign) (m : ℕ) (e : ℤ) (a : Accuracy) :
    sign? (roundWithAccuracy .binary64 s m e a) = some s := by
  simp only [roundWithAccuracy]
  split_ifs <;> rfl

/-- The unpacked doubles that are not below zero. -/
def NotNegative : UnpackedFloat → Prop
  | .infinity .positive | .zero _ | .finite .positive .. => True
  | .notANumber | .infinity .negative | .finite .negative .. => False

theorem notNegative_of_sign? {u : UnpackedFloat} (h : sign? u = some .positive) :
    NotNegative u := by
  rcases u with s | _ | s | ⟨s, m, e, hm⟩ <;> cases h <;> trivial

theorem NotNegative.unpack_pack {u : UnpackedFloat} (h : NotNegative u) :
    NotNegative (Float.Model.pack u).unpack := by
  rcases u with (_ | _) | _ | (_ | _) | ⟨_ | _, m, e, hm⟩ <;>
    first
    | exact h.elim
    | trivial
    | exact notNegative_of_sign? (sign?_unpack_pack _)

theorem notNegative_iff {u : UnpackedFloat} :
    NotNegative u ↔ ∃ b ∈ rank? u, toLex (0, toLex (0, 0)) ≤ b := by
  rcases u with (_ | _) | _ | _ | ⟨_ | _, m, e, hm⟩ <;>
    simp [rank?, NotNegative, Prod.Lex.toLex_le_toLex]

theorem unpack_zero : (0.0 : Float).toModel.unpack = .zero .positive := unpack_packedZero

theorem nonneg_iff {x : Float} : 0.0 ≤ x ↔ NotNegative x.toModel.unpack := by
  rw [le_iff, unpack_zero, notNegative_iff]
  simp [rank?]

/-! ## Maxima -/

section Float

variable {x y c : Float}

theorem sup_nonneg (hx : 0.0 ≤ x) (hy : 0.0 ≤ y) : 0.0 ≤ Measure.sup x y := by
  rw [Measure.sup]
  split_ifs
  · exact hy
  · exact hx

/-- The largest of some doubles is above zero when the first is. -/
theorem largest_pos (hx : 0.0 < x) (ys : List Float) : 0.0 < Measure.largest x ys := by
  induction ys generalizing x with
  | nil => exact hx
  | cons y ys ih =>
    rw [Measure.largest_cons]
    refine ih ?_
    rw [Measure.sup]
    split_ifs with hxy
    · exact Trans.trans hx hxy
    · exact hx

theorem isNaN_sup (hx : x.isNaN = false) (hy : y.isNaN = false) :
    (Measure.sup x y).isNaN = false := by
  rw [Measure.sup]
  split_ifs
  · exact hy
  · exact hx

theorem le_sup_iff {t : Float} (hx : x.isNaN = false) (hy : y.isNaN = false) :
    t ≤ Measure.sup x y ↔ t ≤ x ∨ t ≤ y := by
  rw [Measure.sup]
  split_ifs with h
  · exact ⟨.inr, fun ht => ht.elim (fun ht => Trans.trans ht (Std.le_of_lt h)) id⟩
  · exact ⟨.inl, fun ht => ht.elim id fun ht => Trans.trans ht ((not_lt hx hy).1 h)⟩

/-- Not to exceed the largest of some numbers is not to exceed one of them. -/
theorem le_largest_iff {t : Float} {ys : List Float} (hx : x.isNaN = false)
    (hys : ∀ y ∈ ys, y.isNaN = false) :
    t ≤ Measure.largest x ys ↔ t ≤ x ∨ ∃ y ∈ ys, t ≤ y := by
  induction ys generalizing x with
  | nil => simp
  | cons y ys ih =>
    rw [List.forall_mem_cons] at hys
    rw [Measure.largest_cons, ih (isNaN_sup hx hys.1) hys.2, le_sup_iff hx hys.1, or_assoc,
      List.exists_mem_cons_iff]

theorem sup_le_iff {t : Float} (hx : x.isNaN = false) (hy : y.isNaN = false) :
    Measure.sup x y ≤ t ↔ x ≤ t ∧ y ≤ t := by
  rw [Measure.sup]
  split_ifs with h
  · exact ⟨fun ht => ⟨Trans.trans (Std.le_of_lt h) ht, ht⟩, fun ht => ht.2⟩
  · exact ⟨fun ht => ⟨ht, Trans.trans ((not_lt hx hy).1 h) ht⟩, fun ht => ht.1⟩

/-- To bound the largest of some numbers is to bound each of them. -/
theorem largest_le_iff {t : Float} {ys : List Float} (hx : x.isNaN = false)
    (hys : ∀ y ∈ ys, y.isNaN = false) :
    Measure.largest x ys ≤ t ↔ x ≤ t ∧ ∀ y ∈ ys, y ≤ t := by
  induction ys generalizing x with
  | nil => simp
  | cons y ys ih =>
    rw [List.forall_mem_cons] at hys
    rw [Measure.largest_cons, ih (isNaN_sup hx hys.1) hys.2, sup_le_iff hx hys.1, and_assoc,
      List.forall_mem_cons]

/-- Above zero a double is determined by its rank. -/
theorem eq_of_rank? {u v : UnpackedFloat} {a : Rank} (hu : rank? u = some a) (hv : rank? v = some a)
    (ha : toLex (0, toLex (0, 0)) < a) : u = v := by
  rcases u with (_ | _) | _ | _ | ⟨_ | _, m, e, hm⟩ <;>
    rcases v with (_ | _) | _ | _ | ⟨_ | _, n, f, hn⟩ <;>
    simp_all [rank?]
  -- What is left has a rank of one class on both sides, or none above zero.
  all_goals
    subst hu
    simp_all [Prod.Lex.toLex_lt_toLex]

theorem eq_of_le_of_le (hx : 0.0 < x) (hxy : x ≤ y) (hyx : y ≤ x) : x = y := by
  obtain ⟨z, hz, a, ha, hza⟩ := lt_iff.1 hx
  obtain ⟨a', ha', b, hb, hab⟩ := le_iff.1 hxy
  obtain ⟨b', hb', a'', ha'', hba⟩ := le_iff.1 hyx
  obtain rfl := Option.mem_unique ha ha'
  obtain rfl := Option.mem_unique ha ha''
  obtain rfl := Option.mem_unique hb hb'
  obtain rfl := le_antisymm hab hba
  rw [unpack_zero] at hz
  obtain rfl : toLex (0, toLex (0, 0)) = z := Option.some.inj hz
  rw [← ofModel_pack_unpack x, eq_of_rank? ha hb hza, ofModel_pack_unpack]

/-- Above zero a double is determined by the numbers that it does not exceed. -/
theorem eq_of_forall_le_iff (hx : 0.0 < x) (hy : 0.0 < y) (h : ∀ t, x ≤ t ↔ y ≤ t) : x = y :=
  eq_of_le_of_le hx ((h y).2 (le_refl (isNaN_of_le (Std.le_of_lt hy)).2))
    ((h x).1 (le_refl (isNaN_of_le (Std.le_of_lt hx)).2))

/-! ## Products, quotients and lengths -/

theorem exists_of_pos (hc : 0.0 < c) (hfinite : c.isFinite = true) :
    ∃ m e hm, c.toModel.unpack = .finite .positive m e hm := by
  change c.toModel.unpack.isFinite = true at hfinite
  rw [lt_iff, unpack_zero] at hc
  generalize c.toModel.unpack = u at hc hfinite
  rcases u with (_ | _) | _ | s | ⟨_ | _, m, e, hm⟩
  · cases hfinite
  · cases hfinite
  · cases hfinite
  · simp [rank?] at hc
  · simp [rank?, Prod.Lex.toLex_lt_toLex] at hc
  · exact ⟨m, e, hm, rfl⟩

theorem NotNegative.mul {u : UnpackedFloat} (h : NotNegative u) {m : ℕ} (e : ℤ) (hm : 0 < m) :
    NotNegative (UnpackedFloat.mul .binary64 u (.finite .positive m e hm)) := by
  rcases u with (_ | _) | _ | _ | ⟨_ | _, n, f, hn⟩ <;> try first | exact h.elim | trivial
  exact notNegative_of_sign? (sign?_roundWithAccuracy ..)

theorem NotNegative.div {u : UnpackedFloat} (h : NotNegative u) {m : ℕ} (e : ℤ) (hm : 0 < m) :
    NotNegative (UnpackedFloat.div .binary64 u (.finite .positive m e hm)) := by
  rcases u with (_ | _) | _ | _ | ⟨_ | _, n, f, hn⟩ <;> try first | exact h.elim | trivial
  exact notNegative_of_sign? (sign?_roundWithAccuracy ..)

theorem mul_nonneg (hx : 0.0 ≤ x) (hc : 0.0 < c) (hfinite : c.isFinite = true) :
    0.0 ≤ x * c := by
  obtain ⟨m, e, hm, hu⟩ := exists_of_pos hc hfinite
  have hmul := (nonneg_iff.1 hx).mul e hm
  rw [← hu] at hmul
  exact nonneg_iff.2 hmul.unpack_pack

theorem div_nonneg (hx : 0.0 ≤ x) (hc : 0.0 < c) (hfinite : c.isFinite = true) :
    0.0 ≤ x / c := by
  obtain ⟨m, e, hm, hu⟩ := exists_of_pos hc hfinite
  have hdiv := (nonneg_iff.1 hx).div e hm
  rw [← hu] at hdiv
  exact nonneg_iff.2 hdiv.unpack_pack

theorem NotNegative.ofScientific (m : ℕ) (e : ℤ) :
    NotNegative (UnpackedFloat.ofScientific .binary64 m e) := by
  rw [UnpackedFloat.ofScientific]
  split_ifs
  · trivial
  · trivial
  · trivial
  · exact NotNegative.mul (by trivial) ..
  · exact NotNegative.div (by trivial) ..

theorem ofInt_nonneg (n : ℕ) : 0.0 ≤ ofInt n := by
  have hsign : ¬ ((n : ℤ) < 0) := by omega
  rw [ofInt, ofDecimal, decide_eq_false hsign]
  exact nonneg_iff.2 (NotNegative.ofScientific ..).unpack_pack

theorem isSome_sign?_normalize (m e : ℤ) (s : Sign) :
    (sign? (UnpackedFloat.normalize .binary64 m e s)).isSome = true := by
  simp only [UnpackedFloat.normalize, UnpackedFloat.round]
  split
  · rw [sign?_roundWithAccuracy]; rfl
  · rfl
  · rw [sign?_roundWithAccuracy]; rfl

theorem isSome_sign?_sub {u v : UnpackedFloat} (hu : u.isFinite = true) (hv : v.isFinite = true) :
    (sign? (UnpackedFloat.sub .binary64 u v)).isSome = true := by
  rcases u with _ | _ | s | ⟨s, m, e, hm⟩
  · cases hu
  · cases hu
  · rcases v with _ | _ | t | ⟨t, n, f, hn⟩
    · cases hv
    · cases hv
    · cases s <;> cases t <;> rfl
    · rfl
  · rcases v with _ | _ | t | ⟨t, n, f, hn⟩
    · cases hv
    · cases hv
    · rfl
    · exact isSome_sign?_normalize ..

theorem isNaN_eq_not_isSome_sign? (u : UnpackedFloat) : u.isNaN = !(sign? u).isSome := by
  cases u <;> rfl

/-- A difference of finite doubles is a number. -/
theorem isNaN_sub (hx : x.isFinite = true) (hy : y.isFinite = true) : (x - y).isNaN = false := by
  change (Float.Model.pack (UnpackedFloat.sub .binary64 _ _)).unpack.isNaN = false
  rw [isNaN_eq_not_isSome_sign?, sign?_unpack_pack, isSome_sign?_sub hx hy]
  rfl

theorem exists_parts (hx : x.isNaN = false) (hinf : x.isInf = false) : ∃ p, parts x = .ok p := by
  change x.toModel.unpack.isNaN = false at hx
  change x.toModel.unpack.isInf = false at hinf
  rw [parts]
  generalize x.toModel.unpack = u at hx hinf
  rcases u with _ | _ | _ | _
  · cases hinf
  · cases hx
  · exact ⟨_, rfl⟩
  · exact ⟨_, rfl⟩

/-- A length is a number that is not negative, unless a component is no number. -/
theorem hypot_nonneg (hx : x.isNaN = false) (hy : y.isNaN = false) : 0.0 ≤ hypot x y := by
  rw [hypot]
  split_ifs with hinf
  · decide
  · obtain ⟨hxinf, hyinf⟩ : x.isInf = false ∧ y.isInf = false := by simpa using hinf
    obtain ⟨p, hp⟩ := exists_parts hx hxinf
    obtain ⟨q, hq⟩ := exists_parts hy hyinf
    rw [hp, hq]
    dsimp only
    split_ifs with hsum
    · decide
    · exact nonneg_iff.2
        (notNegative_of_sign? (sign?_roundWithAccuracy ..)).unpack_pack

end Float

end Promptbook.Double
