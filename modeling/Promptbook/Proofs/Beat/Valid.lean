import Promptbook.Proofs.Edit.Valid
import Promptbook.Proofs.Scenario.Shapes
import Promptbook.Proofs.Trip.Mention

/-!
# What the schema asks of a beat

The bounds that the schema puts on a beat concern the places of its movements and the numbers of its
emotions, voices, light, sounds and lines.  A flattened beat is within them: its places are those of
its walks or placements, its numbers fixed or taken from a valid layered beat.
-/

namespace Promptbook

open Record Record.Shape

theorem Place.admits_shape_iff {p : Place Float} : Place.shape.Admits p ↔ p.InBounds := by
  simp [shape, fields, Admits, Range.across, Range.share, Range.between_fault?_eq_none_iff,
    InBounds]

theorem Movement.admits_shape_iff {m : Movement Float} :
    Movement.shape.Admits m ↔ (∀ p ∈ m.origin, p.InBounds) ∧ ∀ p ∈ m.target, p.InBounds := by
  simp [shape, Admits, Place.admits_shape_iff]

theorem Emotion.admits_shape_iff {e : Emotion Float} :
    Emotion.shape.Admits e ↔ 0.0 ≤ e.intensity ∧ e.intensity ≤ 1.0 := by
  simp [shape, Admits, Range.share, Range.between_fault?_eq_none_iff]

theorem Voice.admits_shape_iff {v : Voice Float} :
    Voice.shape.Admits v ↔ (0.0 ≤ v.volume ∧ v.volume ≤ 1.0) ∧
      (Json.integer v.speed).isBrief ∧ (Json.integer v.duration).isBrief := by
  have hpitch : Range.all.fault? v.pitch = none := rfl
  simp [shape, Admits, Range.share, Range.between_fault?_eq_none_iff, hpitch, belowLeast?]
  tauto

theorem Gesture.admits_shape (g : Gesture) : Gesture.shape.Admits g := by
  simp [shape, Admits]

theorem Part.admits_shape_iff {p : Part Float} :
    Part.shape.Admits p ↔ Movement.shape.Admits p.movement ∧ Emotion.shape.Admits p.emotion ∧
      ∀ v ∈ p.voice, Voice.shape.Admits v := by
  simp [shape, Admits, Gesture.admits_shape]

theorem Line.admits_shape_iff {l : Line Float} :
    Line.shape.Admits l ↔ 0.0 ≤ l.delay ∧ (integer (some 0)).Admits l.typingSpeed := by
  simp [shape, Admits, Range.time_fault?_eq_none_iff]

theorem Line.admits_shape_iff_bounds {l : Line Float} :
    Line.shape.Admits l ↔
      (0.0 ≤ l.delay ∧ 0 ≤ l.typingSpeed) ∧ (Json.integer l.typingSpeed).isBrief := by
  rw [admits_shape_iff, and_assoc]
  simp [Admits, belowLeast?]

theorem Lighting.admits_shape_iff {i : Lighting Float} :
    Lighting.shape.Admits i ↔ 0.0 ≤ i.brightness ∧ i.brightness ≤ 1.0 := by
  simp [shape, Admits, Range.share, Range.between_fault?_eq_none_iff]

theorem Sound.admits_shape_iff {s : Sound Float} :
    Sound.shape.Admits s ↔
      ∀ c ∈ s.cues, (0.0 ≤ c.volume ∧ c.volume ≤ 1.0) ∧ 0.0 ≤ c.delay := by
  simp [shape, SoundCue.shape, Admits, Range.share, Range.between_fault?_eq_none_iff,
    Range.time_fault?_eq_none_iff]

theorem Backdrop.admits_shape (b : Backdrop) : Backdrop.shape.Admits b := by
  simp [shape, Admits]

theorem Layers.admits_shape_iff {l : Layers Float} :
    Layers.shape.Admits l ↔ (∀ p ∈ l.parts, Part.shape.Admits p) ∧
      (∀ i ∈ l.lighting, Lighting.shape.Admits i) ∧ (∀ s ∈ l.sound, Sound.shape.Admits s) ∧
      ∀ i ∈ l.lines, Line.shape.Admits i := by
  simp [shape, Admits, Backdrop.admits_shape]

theorem Beat.admits_shape_iff {b : Beat Float} :
    Beat.shape.Admits b ↔ 0.0 < b.duration ∧ Layers.shape.Admits b.layers := by
  simp [shape, Admits, Range.duration_fault?_eq_none_iff]

/-! ## Valid beats

The schema asks for more than bounds only of whole numbers: they must be short enough to be read. -/

/-- The places between which a movement leads, as far as they are known. -/
def Movement.places {α : Type} (m : Movement α) : List (Place α) :=
  m.origin.toList ++ m.target.toList

namespace Part

/-- The bounds of a part. -/
structure Valid (p : Part Float) : Prop where
  places : ∀ q ∈ p.movement.places, q.InBounds
  intensity : 0.0 ≤ p.emotion.intensity ∧ p.emotion.intensity ≤ 1.0
  volume : ∀ v ∈ p.voice, 0.0 ≤ v.volume ∧ v.volume ≤ 1.0

instance (p : Part Float) : Decidable p.Valid :=
  decidable_of_iff ((∀ q ∈ p.movement.places, q.InBounds) ∧
      (0.0 ≤ p.emotion.intensity ∧ p.emotion.intensity ≤ 1.0) ∧
      ∀ v ∈ p.voice, 0.0 ≤ v.volume ∧ v.volume ≤ 1.0)
    ⟨fun ⟨hplaces, hintensity, hvolume⟩ => ⟨hplaces, hintensity, hvolume⟩,
      fun h => ⟨h.places, h.intensity, h.volume⟩⟩

/-- The whole numbers of a part. -/
def wholes {α : Type} (p : Part α) : List Int :=
  p.voice.toList.flatMap fun v => [v.speed, v.duration]

theorem admits_shape_iff_valid {p : Part Float} :
    Part.shape.Admits p ↔ p.Valid ∧ ∀ n ∈ p.wholes, (Json.integer n).isBrief := by
  have hplaces : (∀ q ∈ p.movement.places, q.InBounds) ↔
      (∀ q ∈ p.movement.origin, q.InBounds) ∧ ∀ q ∈ p.movement.target, q.InBounds := by
    simp [Movement.places, or_imp, forall_and]
  have hwholes : (∀ n ∈ p.wholes, (Json.integer n).isBrief) ↔
      ∀ v ∈ p.voice, (Json.integer v.speed).isBrief ∧ (Json.integer v.duration).isBrief := by
    rw [wholes, List.forall_mem_flatMap]
    simp
  rw [admits_shape_iff, Movement.admits_shape_iff, ← hplaces, Emotion.admits_shape_iff, hwholes]
  simp only [Voice.admits_shape_iff]
  constructor
  · rintro ⟨hplaces, hintensity, hvoice⟩
    exact ⟨⟨hplaces, hintensity, fun v hv => (hvoice v hv).1⟩, fun v hv => (hvoice v hv).2⟩
  · rintro ⟨h, hbrief⟩
    exact ⟨h.places, h.intensity, fun v hv => ⟨h.volume v hv, hbrief v hv⟩⟩

end Part

namespace Beat

/-- The bounds of a beat. -/
structure Valid (b : Beat Float) : Prop where
  duration : 0.0 < b.duration
  parts : ∀ p ∈ b.layers.parts, p.Valid
  brightness : ∀ i ∈ b.layers.lighting, 0.0 ≤ i.brightness ∧ i.brightness ≤ 1.0
  cues : ∀ s ∈ b.layers.sound, ∀ c ∈ s.cues, (0.0 ≤ c.volume ∧ c.volume ≤ 1.0) ∧ 0.0 ≤ c.delay
  lines : ∀ l ∈ b.layers.lines, 0.0 ≤ l.delay ∧ 0 ≤ l.typingSpeed

instance (b : Beat Float) : Decidable b.Valid :=
  decidable_of_iff (0.0 < b.duration ∧ (∀ p ∈ b.layers.parts, p.Valid) ∧
      (∀ i ∈ b.layers.lighting, 0.0 ≤ i.brightness ∧ i.brightness ≤ 1.0) ∧
      (∀ s ∈ b.layers.sound, ∀ c ∈ s.cues, (0.0 ≤ c.volume ∧ c.volume ≤ 1.0) ∧ 0.0 ≤ c.delay) ∧
      ∀ l ∈ b.layers.lines, 0.0 ≤ l.delay ∧ 0 ≤ l.typingSpeed)
    ⟨fun ⟨hduration, hparts, hbrightness, hcues, hlines⟩ =>
      ⟨hduration, hparts, hbrightness, hcues, hlines⟩,
      fun h => ⟨h.duration, h.parts, h.brightness, h.cues, h.lines⟩⟩

/-- The whole numbers of a beat. -/
def wholes {α : Type} (b : Beat α) : List Int :=
  b.layers.parts.flatMap (·.wholes) ++ b.layers.lines.map (·.typingSpeed)

/-- The schema admits the valid beats whose whole numbers are short. -/
theorem admits_shape_iff_valid {b : Beat Float} :
    Beat.shape.Admits b ↔ b.Valid ∧ ∀ n ∈ b.wholes, (Json.integer n).isBrief := by
  rw [admits_shape_iff, Layers.admits_shape_iff, wholes, List.forall_mem_append,
    List.forall_mem_flatMap, List.forall_mem_map]
  simp only [Part.admits_shape_iff_valid, Lighting.admits_shape_iff, Sound.admits_shape_iff,
    Line.admits_shape_iff_bounds]
  constructor
  · rintro ⟨hduration, hparts, hbrightness, hcues, hlines⟩
    exact ⟨⟨hduration, fun p hp => (hparts p hp).1, hbrightness, hcues,
      fun l hl => (hlines l hl).1⟩, fun p hp => (hparts p hp).2, fun l hl => (hlines l hl).2⟩
  · rintro ⟨h, hvoices, hspeeds⟩
    exact ⟨h.duration, fun p hp => ⟨h.parts p hp, hvoices p hp⟩, h.brightness, h.cues,
      fun l hl => ⟨h.lines l hl, hspeeds l hl⟩⟩

end Beat

/-! ## Flattened beats -/

theorem placement_inBounds (rank : Nat) : (placement rank : Place Float).InBounds := by
  rw [placement]
  split_ifs <;> decide

/-- The movement that some walks amount to leads between places of these walks. -/
theorem WalkEntry.admits_movement {q : Place Float} (hq : q.InBounds) {ws : List (WalkEntry Float)}
    (hws : ∀ w ∈ ws, w.Valid) : Movement.shape.Admits (movement q ws) := by
  rw [Movement.admits_shape_iff]
  rcases ws with _ | ⟨w, _ | ⟨v, ws⟩⟩
  · simpa [movement, Movement.stayAt] using hq
  · simpa [movement, Movement.stayAt] using (hws w (by simp)).target
  · refine ⟨(hws w (by simp)).origin, fun p hp => ?_⟩
    obtain rfl := Option.some.inj hp
    exact (hws _ (List.mem_cons_of_mem w (List.getLast_mem _))).target

namespace LayeredBeat.Valid

variable {b : LayeredBeat Float} (hb : b.Valid)

include hb

theorem effectiveDuration_pos : 0.0 < b.effectiveDuration := by
  rw [effectiveDuration]
  cases hduration : b.duration with
  | none => exact b.estimate_pos
  | some t => exact hb.duration t hduration

theorem admits_part (rank : Nat) (c : Character) : Part.shape.Admits (b.part rank c) := by
  have hshare : (0.0 : Float) ≤ 0.7 ∧ (0.7 : Float) ≤ 1.0 := by decide
  refine Part.admits_shape_iff.2 ⟨?_, Emotion.admits_shape_iff.2 hshare, nofun⟩
  refine WalkEntry.admits_movement (placement_inBounds rank) fun w hw => hb.walks w ?_
  exact List.mem_mergeSort.1 (List.mem_of_mem_filter hw)

/-- A valid layered beat flattens to a valid beat. -/
theorem admits_flatten (d : Directory) : Beat.shape.Admits (b.flatten d) := by
  refine Beat.admits_shape_iff.2 ⟨hb.effectiveDuration_pos, Layers.admits_shape_iff.2
    ⟨?_, nofun, nofun, ?_⟩⟩
  · intro p hp
    obtain ⟨c, -, rfl⟩ := (b.mem_parts_iff d).1 hp
    exact hb.admits_part _ c
  · intro l hl
    obtain ⟨i, hi, rfl⟩ := List.mem_map.1 hl
    have hspeed : -wholeLimit < usualTypingSpeed ∧ usualTypingSpeed < wholeLimit := by decide
    exact Line.admits_shape_iff.2 ⟨hb.lines i hi, admits_integer rfl hspeed⟩

end LayeredBeat.Valid

end Promptbook
