import Promptbook.Proofs.Layered.Alternation
import Promptbook.Proofs.Number.Nearby

/-!
# Walks within their beat

When a beat is taken apart, all walks start while it lasts, but some take a fixed time.  An entrance
takes one second, and an exit one second from seven tenths of the duration on, so that a beat can be
too short for them; the usual duration of three seconds is too short for an exit.  How short is too
short is settled for the very doubles: below ten thirds of a second, but for a few units of the last
place.
-/

namespace Promptbook

/-- The second by which an exit is over, in a beat that lasts some seconds. -/
def exitEnd (t : Float) : Float := t * 0.7 + 1.0

/-- The shortest time in which an exit is over before it ends. -/
def leastExit : Float := 3.333333333333332

theorem exitEnd_nonneg {t : Float} (ht : 0.0 ≤ t) : 0.0 ≤ exitEnd t :=
  Double.add_nonneg (Double.mul_nonneg ht (by decide) (by decide)) (by decide)

theorem exitEnd_mono {s t : Float} (hs : 0.0 ≤ s) (hst : s ≤ t) : exitEnd s ≤ exitEnd t :=
  Double.add_mono (Double.mul_nonneg hs (by decide) (by decide)) (by decide)
    (Double.mul_mono hs hst (by decide) (by decide)) (by decide)

/-- The ends of exits climb from zero to the shortest time in which an exit is over. -/
theorem iterate_exitEnd : exitEnd^[101] 0.0 = leastExit := by decide +kernel

theorem lt_exitEnd {t : Float} (ht : 0.0 ≤ t) (h : t < leastExit) : t < exitEnd t := by
  refine Double.lt_of_lt_iterate (fun _ => exitEnd_nonneg) (fun _ _ => exitEnd_mono) ht
    (n := 101) ?_
  rwa [iterate_exitEnd]

/-- A time from which on an exit is over early enough for any rounding of the product. -/
def lateExit : Float := 3.333333333333334

theorem unpack_lateExit :
    lateExit.toModel.unpack = .finite .positive 7505999378950828 (-51) (by norm_num) := rfl

/-- The doubles next to the shortest time are long enough. -/
theorem exitEnd_le_of_nearby {t : Float} (hlow : leastExit ≤ t) (hhigh : t ≤ lateExit) :
    exitEnd t ≤ t := by
  have hleast : leastExit.toModel.unpack =
      .finite .positive 7505999378950824 (-51) (by norm_num) := rfl
  obtain ⟨k, hk, hle, hge, rfl⟩ := Double.exists_of_between hleast unpack_lateExit hlow hhigh
  interval_cases k <;> decide +kernel +revert

/-- In longer times an exit is over even when the product is rounded up. -/
theorem exitEnd_le_of_late {t : Float} (h : lateExit ≤ t) : exitEnd t ≤ t := by
  have hlate : 0.0 ≤ lateExit := by decide
  have ht : 0.0 ≤ t := Trans.trans hlate h
  have hproduct : 0.0 ≤ t * 0.7 := Double.mul_nonneg ht (by decide) (by decide)
  have hshare : t * 0.7 ≤ t := Double.mul_le_self ht (by decide) (by decide)
  have hunpack : (0.7 : Float).toModel.unpack =
      .finite .positive 6305039478318694 (-53) (by norm_num) := rfl
  have hfactor := Double.magnitude_of_unpack hunpack
  -- The sum is rounded to no more than the duration if it is exactly no more than it.
  refine Double.add_le_of_magnitude hproduct (by decide) ht ?_
  rw [Double.le_iff_magnitude hlate ht, Double.magnitude_of_unpack unpack_lateExit] at h
  rw [Double.le_iff_magnitude hproduct ht] at hshare
  rw [Double.magnitude_one]
  cases hv : Double.magnitude t using WithTop.recTopCoe with
  | top => exact le_top
  | coe v =>
    rw [hv] at h hshare
    obtain ⟨w, hw, -⟩ := WithTop.le_coe_iff.1 hshare
    have hle := Double.magnitude_mul_le ht (by decide) (by decide) hv hfactor hw
    rw [hw]
    have hlong : 7505999378950828 * 2 ^ (-51 : ℤ) ≤ v := by exact_mod_cast h
    -- Three tenths of the duration are more than the second, by more than the rounding takes.
    have htiny : (2 : ℚ) ^ (-1074 : ℤ) ≤ 2 ^ (-200 : ℤ) :=
      zpow_le_zpow_right₀ one_le_two (by norm_num)
    have hroom : w + 1 ≤ v := by
      generalize (2 : ℚ) ^ (-1074 : ℤ) = tiny at hle htiny
      norm_num at hle hlong htiny ⊢
      linarith
    exact_mod_cast hroom

/-- How long a beat must be for an exit to be over when it ends. -/
theorem exitEnd_le_iff {t : Float} (ht : 0.0 ≤ t) : exitEnd t ≤ t ↔ leastExit ≤ t := by
  have hnumber := (Double.isNaN_of_le ht).2
  constructor
  · intro hle
    rw [← Double.not_lt hnumber (by decide)]
    exact fun hlt => Std.not_lt_of_ge hle (lt_exitEnd ht hlt)
  · intro hle
    by_cases hlate : t < lateExit
    · exact exitEnd_le_of_nearby hle (Std.le_of_lt hlate)
    · exact exitEnd_le_of_late ((Double.not_lt hnumber (by decide)).1 hlate)

namespace MovementKind

/-- Every walk starts while the beat lasts. -/
theorem start_le {t : Float} (ht : 0.0 ≤ t) (k : MovementKind) : (k.times t).1 ≤ t := by
  cases k with
  | exit => exact Double.mul_le_self ht (by decide) (by decide)
  | enter | move | stay | approach | retreat => exact ht

/-- Only entrances and exits may take longer than the beat lasts. -/
theorem finish_le_iff {t : Float} (ht : 0.0 ≤ t) (k : MovementKind) :
    (k.times t).2 ≤ t ↔ (k = .enter → 1.0 ≤ t) ∧ (k = .exit → leastExit ≤ t) := by
  cases k with
  | enter => simp [times]
  | exit =>
    have hexit : (times t exit).2 ≤ t ↔ leastExit ≤ t := exitEnd_le_iff ht
    simpa using hexit
  | stay => simpa [times] using ht
  | move | approach | retreat => simpa [times] using Double.div_le_self ht (by decide) (by decide)

end MovementKind

/-- Walks that a beat is taken apart into stay within the beat, where it is long enough.  Each of
them comes from a part, starts while the beat lasts, an exit after seven tenths of it, and does not
end before it starts; and it is over when the beat ends unless it is an entrance into a beat of less
than a second or an exit from one of less than some three and a third seconds. -/
theorem walk_over_iff (b : Beat Float) (hb : b.Valid) (d : Directory) :
    ∀ w ∈ (b.layered d).walks, ∃ p ∈ b.layers.parts, b.walk? p = some w ∧
      0.0 ≤ w.start ∧ w.start ≤ w.finish ∧ w.start ≤ b.duration ∧
      (p.movement.kind = .exit → w.start = b.duration * 0.7) ∧
      (w.finish ≤ b.duration ↔ (p.movement.kind = .enter → 1.0 ≤ b.duration) ∧
        (p.movement.kind = .exit → 3.333333333333332 ≤ b.duration)) := by
  intro w hw
  obtain ⟨p, hp, hpw⟩ := List.mem_filterMap.1 hw
  have htimes := Beat.times_of_walk? hpw
  have hstart : w.start = (p.movement.kind.times b.duration).1 := congrArg Prod.fst htimes
  have hfinish : w.finish = (p.movement.kind.times b.duration).2 := congrArg Prod.snd htimes
  have hduration := hb.duration_nonneg
  obtain ⟨hnonneg, hordered⟩ := MovementKind.times_ordered hduration p.movement.kind
  rw [hstart, hfinish]
  refine ⟨p, hp, hpw, hnonneg, hordered, MovementKind.start_le hduration _, ?_,
    MovementKind.finish_le_iff hduration _⟩
  intro hexit
  rw [hexit]
  rfl

/-- Anna crosses the stage, and Ben leaves it. -/
def farewell (duration : Float) : Beat Float where
  id := "b"
  name := "Farewell"
  description := ""
  duration := duration
  layers := {
    parts := [
      ⟨"anna", "Anna", .female, ⟨.move, some ⟨0.2, 0.6⟩, some ⟨0.5, 0.6⟩, .normal⟩, ⟨.sad, 0.5⟩,
        none, .right, none⟩,
      ⟨"ben", "Ben", .male, ⟨.exit, some ⟨0.5, 0.6⟩, some ⟨-0.1, 0.6⟩, .normal⟩, ⟨.sad, 0.5⟩,
        none, .left, none⟩]
    backdrop := none
    lighting := none
    sound := none
    lines := [] }

/-- In five seconds both walks are over. -/
theorem walk_over_iff_farewell :
    (farewell 5.0).Valid ∧ ((farewell 5.0).layered []).walks.length = 2 ∧
      ∀ w ∈ ((farewell 5.0).layered []).walks, w.finish ≤ 5.0 := by
  have hvalid : (farewell 5.0).Valid := by decide +kernel
  refine ⟨hvalid, rfl, fun w hw => ?_⟩
  obtain ⟨p, -, -, -, -, -, -, hover⟩ := walk_over_iff (farewell 5.0) hvalid [] w hw
  exact hover.2 ⟨fun _ => by decide, fun _ => by decide⟩

/-- In a beat of the usual duration Ben is still leaving when the beat ends. -/
theorem farewell_cut_off :
    let b := farewell usualDuration
    b.Valid ∧ (b.layered []).walks.map (·.finish) = [1.5, 3.0999999999999996] ∧
      ∃ w ∈ (b.layered []).walks, b.duration < w.finish :=
  ⟨by decide +kernel, by decide +kernel, by decide +kernel⟩

end Promptbook
