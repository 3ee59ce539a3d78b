import Promptbook.Proofs.Edit.Valid

/-!
# How long walks may take

Where the duration of a beat is left open, the estimate gives every walk two seconds and looks no
further: neither at the end that the walk has in the layer nor at the way that it covers.  So the
beat outlasts a walk just in case something that the estimate counts outlasts it, and a longer walk
on its own is cut off.
-/

namespace Promptbook

open Record

namespace LayeredBeat

/-- Whether something that the estimate counts goes on until a time: the usual duration, a line, or
the two seconds of a walk. -/
def GoesOnUntil (b : LayeredBeat Float) (t : Float) : Prop :=
  t ≤ 3.0 ∨ (∃ l ∈ b.lines, t ≤ l.finish) ∨ ∃ w ∈ b.walks, t ≤ w.start + 2.0

instance (b : LayeredBeat Float) (t : Float) : Decidable (b.GoesOnUntil t) :=
  inferInstanceAs (Decidable (_ ∨ _ ∨ _))

end LayeredBeat

theorem LineEntry.finish_nonneg {l : LineEntry Float} (h : 0.0 ≤ l.start) : 0.0 ≤ l.finish := by
  have hcount : 0.0 ≤ Double.ofInt l.text.length * 0.15 :=
    Double.mul_nonneg (Double.ofInt_nonneg _) (by decide) (by decide)
  exact Double.add_nonneg h (Double.sup_nonneg hcount (by decide))

namespace LayeredBeat

variable {b : LayeredBeat Float}

/-- Whether no line and no walk starts before the beat. -/
structure StartsInTime (b : LayeredBeat Float) : Prop where
  lines : ∀ l ∈ b.lines, 0.0 ≤ l.start
  walks : ∀ w ∈ b.walks, 0.0 ≤ w.start

theorem Valid.startsInTime (h : b.Valid) : b.StartsInTime :=
  ⟨h.lines, fun w hw => (h.walks w hw).start⟩

theorem StartsInTime.isNaN_ends (hb : b.StartsInTime) :
    ∀ u ∈ b.lines.map (·.finish) ++ b.walks.map fun w => w.start + 2.0, u.isNaN = false := by
  rw [List.forall_mem_append, List.forall_mem_map, List.forall_mem_map]
  refine ⟨fun l hl => ?_, fun w hw => ?_⟩
  · exact (Double.isNaN_of_le (LineEntry.finish_nonneg (hb.lines l hl))).2
  · exact (Double.isNaN_of_le (Double.add_nonneg (hb.walks w hw) (by decide))).2

/-- The estimate of a valid beat comes after the times until which something goes on. -/
theorem Valid.le_estimate_iff (hb : b.Valid) {t : Float} : t ≤ b.estimate ↔ b.GoesOnUntil t := by
  rw [estimate, Double.le_largest_iff (by decide) hb.startsInTime.isNaN_ends]
  simp only [GoesOnUntil, usualDuration, List.mem_append, List.mem_map, or_and_right, exists_or,
    exists_exists_and_eq_and]

end LayeredBeat

namespace Edit

variable {α : Type} [Measure α] {b : LayeredBeat α}

/-- Only one edit settles the duration. -/
theorem duration_attempt {e : Edit α} (he : e ≠ .fixDuration) :
    (attempt b e).duration = b.duration := by
  obtain ⟨ps, -, h⟩ | ⟨c, hc, h⟩ := attempt_cases b e
  · rw [h]
  · rw [h]
    cases e with
    | appendLine | removeLine | setLocation =>
      cases hc
      rfl
    | addWalk =>
      obtain ⟨-, rfl⟩ := b.addWalk_eq_ok_iff.1 hc
      rfl
    | addGesture =>
      obtain ⟨-, rfl⟩ := b.addGesture_eq_ok_iff.1 hc
      rfl
    | fixDuration => exact absurd rfl he

theorem duration_run {es : List (Edit α)} (hes : ∀ e ∈ es, e ≠ .fixDuration) :
    (run b es).duration = b.duration := by
  induction es generalizing b with
  | nil => rfl
  | cons e es ih =>
    rw [List.forall_mem_cons] at hes
    exact (ih hes.2).trans (duration_attempt hes.1)

end Edit

/-- A beat whose duration is left open outlasts exactly those walks that something which the
estimate counts outlasts.  This holds after any edits that leave the duration open, and the duration
that an author fixes then is the same. -/
theorem outlasts_walk_iff (b : LayeredBeat Float) (hb : LayeredBeat.shape.Admits b)
    (hopen : b.duration = none) (es : List (Edit Float)) (hes : ∀ e ∈ es, e.InBounds)
    (hfix : ∀ e ∈ es, e ≠ .fixDuration) :
    let c := Edit.run b es
    (∀ w ∈ c.walks, w.finish ≤ c.effectiveDuration ↔ c.GoesOnUntil w.finish) ∧
      c.fixDuration.duration = some c.effectiveDuration := by
  intro c
  have hvalid : c.Valid := Edit.valid_run (LayeredBeat.admits_shape_iff.1 hb) hes
  have hestimate : c.effectiveDuration = c.estimate := by
    rw [LayeredBeat.effectiveDuration, Edit.duration_run hfix, hopen]
    rfl
  rw [hestimate]
  exact ⟨fun w _ => hvalid.le_estimate_iff, rfl⟩

/-- Anna crosses the stage, and greets long enough for the beat to outlast both her walks. -/
theorem outlasts_walk_iff_greeting :
    let anna : Character := ⟨"anna", "Anna", .female⟩
    let b : LayeredBeat Float := ⟨"b", "Greeting", none, .stageFloor, [], [], []⟩
    let es : List (Edit Float) :=
      [.addWalk "anna" Landmark.left.canvasPlace 0.0 none none,
        .appendLine anna "Good evening, ladies and gentlemen!" .happy none none,
        .addWalk "anna" Landmark.right.canvasPlace 2.0 none none]
    let c := Edit.run b es
    LayeredBeat.shape.Admits b ∧ b.duration = none ∧ (∀ e ∈ es, e.InBounds) ∧
      (∀ e ∈ es, e ≠ .fixDuration) ∧
      (∀ w ∈ c.walks, w.finish ≤ c.effectiveDuration) ∧
      c.fixDuration.duration = some c.effectiveDuration := by
  intro anna b es c
  have hb : LayeredBeat.shape.Admits b := LayeredBeat.admits_shape_iff.2 (by decide)
  have hes : ∀ e ∈ es, e.InBounds := by decide
  have hfix : ∀ e ∈ es, e ≠ .fixDuration := by decide
  obtain ⟨hiff, hduration⟩ := outlasts_walk_iff b hb rfl es hes hfix
  have hgoesOn : ∀ w ∈ c.walks, c.GoesOnUntil w.finish := by decide +kernel
  exact ⟨hb, rfl, hes, hfix, fun w hw => (hiff w hw).2 (hgoesOn w hw), hduration⟩

/-- When she crosses in silence, the beat ends before she arrives: the way takes her longer than two
seconds. -/
theorem silent_crossing_cut_off :
    let b : LayeredBeat Float := ⟨"b", "Crossing", none, .stageFloor, [], [], []⟩
    let es : List (Edit Float) :=
      [.addWalk "anna" Landmark.left.canvasPlace 0.0 none none,
        .addWalk "anna" Landmark.right.canvasPlace 2.0 none none]
    let c := Edit.run b es
    LayeredBeat.shape.Admits b ∧ b.duration = none ∧ (∀ e ∈ es, e.InBounds) ∧
      c.walks.map (·.finish) = [1.0, 4.1] ∧ c.effectiveDuration = 4.0 ∧
      c.fixDuration.duration = some 4.0 ∧
      ¬ ∀ w ∈ c.walks, w.finish ≤ c.effectiveDuration := by
  intro b es c
  have hb : LayeredBeat.shape.Admits b := LayeredBeat.admits_shape_iff.2 (by decide)
  exact ⟨hb, rfl, by decide, by decide +kernel, by decide +kernel, by decide +kernel,
    by decide +kernel⟩

end Promptbook
