import Mathlib
import Promptbook.Proofs.Number.Shortest

/-!
# Doubles and their parts

The parts of a finite double determine it, and the decimal that is written for it is read back as
the same double, in whichever way its digits are laid out.

The laws of packed doubles, on which both rest, are in no module of Mathlib short of the whole.
-/

namespace Promptbook.Double

open Float.Model Float.Model.UnpackedFloat

/-- A double is made of its parts. -/
theorem ofModel_pack_unpack (x : Float) : Float.ofModel (.pack x.toModel.unpack) = x :=
  x.ofBits_toBits

theorem toNat_append_one (b : BitVec 52) : (1#1 ++ b).toNat = 2 ^ 52 + b.toNat := by
  rw [BitVec.toNat_append, ← Nat.shiftLeft_add_eq_or_of_lt b.isLt]
  rfl

theorem bias_eq : (Format.binary64.exponentBias : ℤ) +
    Format.binary64.mantissaBitsWithoutImplicit = 1075 := rfl

theorem mantissaBits_eq : Format.binary64.mantissaBits = 53 := rfl

/-- The parts of a double are a mantissa and an exponent of the right size. -/
theorem canonical_of_unpack {x : Float.Model} {s : Sign} {m : ℕ} {e : ℤ} {hm : 0 < m}
    (h : x.unpack = .finite s m e hm) : Canonical m e ∧ e ≤ 971 := by
  rw [Float.Model.unpack, UnpackedFloat.unpack] at h
  have hmantissa : (@unpackMantissa .binary64 x.toBits.toBitVec).toNat < 2 ^ 52 := BitVec.isLt _
  have hexponent : (@unpackExponent .binary64 x.toBits.toBitVec).toNat < 2 ^ 11 := BitVec.isLt _
  split at h
  next => split at h <;> cases h
  next htop =>
    split at h
    next hzero =>
      split at h
      next => cases h
      next =>
        injection h with _ hm' he'
        rw [bias_eq, hzero] at he'
        subst hm' he'
        exact ⟨⟨hm, by omega, by simp, by simp⟩, by simp⟩
    next hzero =>
      injection h with _ hm' he'
      rw [toNat_append_one] at hm'
      rw [bias_eq] at he'
      have htop : (@unpackExponent .binary64 x.toBits.toBitVec).toNat ≠ 2047 :=
        fun h => htop (BitVec.eq_of_toNat_eq h)
      have hzero : (@unpackExponent .binary64 x.toBits.toBitVec).toNat ≠ 0 :=
        fun h => hzero (BitVec.eq_of_toNat_eq h)
      exact ⟨⟨hm, by omega, by omega, fun _ => by omega⟩, by omega⟩

/-- A mantissa and an exponent of the right size are kept. -/
theorem unpack_pack (s : Sign) {m : ℕ} {e : ℤ} (hc : Canonical m e) (he : e ≤ 971) :
    (Float.Model.pack (.finite s m e hc.pos)).unpack = .finite s m e hc.pos := by
  obtain ⟨hpos, hlt, hleast, hnormal⟩ := hc
  change UnpackedFloat.unpack .binary64 (UnpackedFloat.pack .binary64 _) = _
  rw [UnpackedFloat.pack]
  dsimp only
  rw [add_assoc, bias_eq, if_neg (show ¬ 2 ^ 11 ≤ (e + 1075).toNat + 1 by omega)]
  rcases Nat.lt_or_ge m (2 ^ 52) with hm | hm
  · have hlog : m.log2 + 1 ≠ Format.binary64.mantissaBits := by
      have := (Nat.log2_lt hpos.ne').2 hm
      rw [mantissaBits_eq]
      omega
    have hmant : (BitVec.ofNat 52 m).toNat = m := by
      rw [BitVec.toNat_ofNat, Nat.mod_eq_of_lt hm]
    have hne : BitVec.ofNat 52 m ≠ 0#52 := fun h => by
      rw [h] at hmant
      exact hpos.ne hmant
    obtain rfl : e = -1074 := by
      by_contra h
      have := hnormal (by omega)
      omega
    rw [if_neg hlog, UnpackedFloat.unpack]
    simp [hne, hmant, show (Format.binary64.exponentBias : ℤ) = 1023 from rfl]
  · have hlog : m.log2 + 1 = Format.binary64.mantissaBits := by
      have := (Nat.le_log2 hpos.ne').2 hm
      have := (Nat.log2_lt hpos.ne').2 hlt
      rw [mantissaBits_eq]
      omega
    have hexp : (BitVec.ofNat 11 (e + 1075).toNat).toNat = (e + 1075).toNat := by
      rw [BitVec.toNat_ofNat, Nat.mod_eq_of_lt (by omega)]
    have htop : BitVec.ofNat 11 (e + 1075).toNat ≠ -1#11 := fun h => by
      rw [h] at hexp
      change 2047 = _ at hexp
      omega
    have hzero : BitVec.ofNat 11 (e + 1075).toNat ≠ 0#11 := fun h => by
      rw [h] at hexp
      change 0 = _ at hexp
      omega
    have hmant : (1#1 ++ BitVec.ofNat 52 m).toNat = m := by
      rw [toNat_append_one, BitVec.toNat_ofNat]
      omega
    rw [if_pos hlog, UnpackedFloat.unpack]
    simp only [unpackExponent_packComponents, unpackMantissa_packComponents,
      unpackSign_packComponents, Sign.ofBitVec_toBitVec, if_neg htop, if_neg hzero, hmant, hexp]
    congr 1
    change ((e + 1075).toNat : ℤ) - 1075 = e
    omega

/-! ## From the parts back to the double -/

/-- The sign of a number. -/
def signOf (negative : Bool) : Sign := if negative then .negative else .positive

theorem signOf_beq (s : Sign) : signOf (s == .negative) = s := by
  cases s <;> rfl

/-- What the parts of a double say of it. -/
theorem unpack_of_parts {x : Float} {p : Parts} (h : parts x = .ok p) :
    p.mantissa = 0 ∧ x.toModel.unpack = .zero (signOf p.negative) ∨
      ∃ hm, x.toModel.unpack = .finite (signOf p.negative) p.mantissa p.exponent hm := by
  rw [parts] at h
  split at h
  next => cases h
  next => cases h
  next s hx =>
    cases h
    rw [hx, signOf_beq]
    exact .inl ⟨rfl, rfl⟩
  next s m e hm hx =>
    cases h
    rw [hx, signOf_beq]
    exact .inr ⟨hm, rfl⟩

theorem isFinite_iff {x : Float} : x.isFinite = true ↔ ∃ p, parts x = .ok p := by
  change x.toModel.unpack.isFinite = true ↔ _
  rw [parts]
  cases x.toModel.unpack <;> simp [UnpackedFloat.isFinite]

theorem neg_ofModel (y : Float.Model) : -Float.ofModel y = Float.ofModel (.pack y.unpack.neg) := rfl

/-- A number is given its sign after it has been rounded. -/
theorem ofModel_signed {u : UnpackedFloat} (hu : (Float.Model.pack u).unpack = u)
    (negative : Bool) :
    (if negative then -Float.ofModel (.pack u) else Float.ofModel (.pack u)) =
      Float.ofModel (.pack (if negative then u.neg else u)) := by
  cases negative
  · rfl
  · rw [if_pos rfl, neg_ofModel, hu, if_pos rfl]

theorem value_ofParts_zero {p : Parts} (h : p.mantissa = 0) : (Shortest.ofParts p).value = 0 := by
  rw [Shortest.ofParts, if_pos h, Shortest.Decimal.value]
  simp

/-- A decimal with the value that is written for a double is read as that double. -/
theorem ofDecimal_of_parts {x : Float} {p : Parts} (hx : parts x = .ok p) {s : ℕ} {k : ℤ}
    (h : (s : ℚ) * 10 ^ k = (Shortest.ofParts p).value) : ofDecimal p.negative s k = x := by
  have hten : (10 : ℚ) ^ k ≠ 0 := by positivity
  rw [ofDecimal, Float.Model.ofScientific]
  rcases unpack_of_parts hx with ⟨hm, hu⟩ | ⟨hm, hu⟩
  · rw [value_ofParts_zero hm, mul_eq_zero_iff_right hten, Nat.cast_eq_zero] at h
    have hzero : (Float.Model.pack (.zero .positive)).unpack = .zero .positive :=
      unpack_packedZero
    rw [h, UnpackedFloat.ofScientific, dif_pos rfl, ofModel_signed hzero, ← ofModel_pack_unpack x,
      hu]
    cases p.negative <;> rfl
  · obtain ⟨hc, he⟩ := canonical_of_unpack hu
    obtain ⟨hpos, hnear⟩ := Shortest.near_ofParts hc p.negative
    rw [← h] at hnear
    have hs : 0 < s := by
      refine Nat.pos_of_ne_zero fun hs => ?_
      rw [hs, Nat.cast_zero, zero_mul, Shortest.Decimal.value, eq_comm, mul_eq_zero] at h
      rcases h with h | h
      · exact hpos.ne' (by exact_mod_cast h)
      · exact (by positivity : (10 : ℚ) ^ (Shortest.ofParts p).exponent ≠ 0) h
    rw [ofScientific_of_near hc he hs hnear, ofModel_signed (unpack_pack _ hc he),
      ← ofModel_pack_unpack x, hu]
    cases p.negative <;> rfl

end Promptbook.Double
