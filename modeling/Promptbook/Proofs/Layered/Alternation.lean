import Promptbook.Proofs.Beat.Valid
import Promptbook.Proofs.Trip.Apart

/-!
# To and fro between the forms of a beat

A conversion has no way to refuse a beat, so what it builds has to keep to the schema whatever
valid beat it is given.  The places that it writes are places that it was given or fixed ones, and
each time is a given one, or a share of a duration with some seconds added.  As no time is compared
with a duration, durations may be as short or as long as they like, and infinite too.
-/

namespace Promptbook

/-- A leg leads between places of its movement. -/
theorem Movement.mem_places_of_leg? {α : Type} {m : Movement α} {origin : Option (Place α)}
    {target : Place α} (h : m.leg? = some (origin, target)) :
    target ∈ m.places ∧ ∀ q ∈ origin, q ∈ m.places := by
  rw [leg?] at h
  cases htarget : m.target with
  | some place =>
    rw [htarget] at h
    cases h
    simp +contextual [places, htarget]
  | none =>
    rw [htarget] at h
    obtain ⟨place, hplace, hleg⟩ := Option.map_eq_some_iff.1 h
    cases hleg
    simp [places, hplace]

/-- A part leads between places of its movement. -/
theorem Part.mem_places_of_leg? {α : Type} {p : Part α} {origin : Option (Place α)}
    {target : Place α} (h : p.leg? = some (origin, target)) :
    target ∈ p.movement.places ∧ ∀ q ∈ origin, q ∈ p.movement.places := by
  cases hk : p.movement.kind <;> simp only [leg?, hk] at h
  case stay =>
    obtain ⟨place, hplace, hleg⟩ := Option.map_eq_some_iff.1 h
    cases hleg
    exact ⟨List.mem_append_left _ (Option.mem_toList.2 hplace), by simp⟩
  case enter =>
    obtain ⟨place, hplace, hleg⟩ := Option.map_eq_some_iff.1 h
    cases hleg
    exact ⟨List.mem_append_right _ (Option.mem_toList.2 hplace), by simp⟩
  case exit | move | approach | retreat => exact Movement.mem_places_of_leg? h

/-! ## One conversion -/

/-- A walk starts within the beat's own time and does not end before. -/
theorem MovementKind.times_ordered {t : Float} (ht : 0.0 ≤ t) (k : MovementKind) :
    0.0 ≤ (k.times t).1 ∧ (k.times t).1 ≤ (k.times t).2 := by
  have hzero : (0.0 : Float) ≤ 0.0 := by decide
  have hone : (0.0 : Float) ≤ 1.0 := by decide
  cases k with
  | stay => exact ⟨hzero, hzero⟩
  | enter => exact ⟨hzero, hone⟩
  | move | approach | retreat => exact ⟨hzero, Double.div_nonneg ht (by decide) (by decide)⟩
  | exit =>
    have hstart : 0.0 ≤ t * 0.7 := Double.mul_nonneg ht (by decide) (by decide)
    exact ⟨hstart, Double.le_add hstart hone⟩

namespace Beat.Valid

variable {b : Beat Float} (hb : b.Valid)

include hb

theorem duration_nonneg : 0.0 ≤ b.duration := Std.le_of_lt hb.duration

theorem valid_walk? {p : Part Float} (hp : p ∈ b.layers.parts) {w : WalkEntry Float}
    (hw : b.walk? p = some w) : w.Valid := by
  obtain ⟨htarget, horigin⟩ := Part.mem_places_of_leg? (leg?_of_walk? hw)
  have hplaces := (hb.parts p hp).places
  have htimes := MovementKind.times_ordered hb.duration_nonneg p.movement.kind
  rw [← times_of_walk? hw] at htimes
  exact ⟨fun q hq => hplaces q (horigin q hq), hplaces _ htarget, htimes.1,
    Trans.trans htimes.1 htimes.2, htimes.2⟩

/-- A valid beat is taken apart into valid layers. -/
theorem valid_layered (d : Directory) : (b.layered d).Valid := by
  constructor
  case duration =>
    intro t ht
    obtain rfl := Option.some.inj ht
    exact hb.duration
  case lines => exact List.forall_mem_map.2 fun l hl => (hb.lines l hl).1
  case gestures =>
    intro g hg
    obtain ⟨p, -, hp⟩ := List.mem_filterMap.1 hg
    obtain ⟨_, -, rfl⟩ := Option.map_eq_some_iff.1 hp
    exact (by decide : (0.0 : Float) ≤ 0.0)
  case walks =>
    intro w hw
    obtain ⟨p, hp, hpw⟩ := List.mem_filterMap.1 hw
    exact hb.valid_walk? hp hpw

end Beat.Valid

/-! ## Any number of conversions -/

/-- A beat in one of its two forms. -/
inductive Draft where
  | layered (b : LayeredBeat Float)
  | flat (b : Beat Float)

namespace Draft

/-- The other form of a beat, with the characters of a directory. -/
def convert (d : Directory) : Draft → Draft
  | layered b => flat (b.flatten d)
  | flat b => layered (b.layered d)

/-- What becomes of a beat by conversions one after the other. -/
def alternate (x : Draft) (ds : List Directory) : Draft := ds.foldl (fun y d => y.convert d) x

/-- The bounds of either form. -/
def Valid : Draft → Prop
  | layered b => b.Valid
  | flat b => b.Valid

variable {x : Draft}

theorem Valid.convert (hx : x.Valid) (d : Directory) : (x.convert d).Valid := by
  cases x with
  | layered b => exact (Beat.admits_shape_iff_valid.1 (LayeredBeat.Valid.admits_flatten hx d)).1
  | flat b => exact Beat.Valid.valid_layered hx d

theorem Valid.alternate (hx : x.Valid) (ds : List Directory) : (x.alternate ds).Valid := by
  induction ds generalizing x with
  | nil => exact hx
  | cons d ds ih => exact ih (hx.convert d)

end Draft

/-- The conversions never fail on a valid beat.  All that is built to flatten a layered beat, or to
take a beat apart, keeps to the schema, and so do the places of a movement that no walk leads to;
hence any number of conversions in turn succeed, with whatever characters. -/
theorem conversions_succeed :
    (∀ (b : LayeredBeat Float) (d : Directory), LayeredBeat.shape.Admits b →
      Beat.shape.Admits (b.flatten d)) ∧
    (∀ (b : Beat Float) (d : Directory), b.Valid →
      LayeredBeat.shape.Admits (b.layered d) ∧
      ∀ p ∈ b.layers.parts, ∀ q ∈ p.movement.places, Place.canvasShape.Admits q) ∧
    ∀ (x : Draft) (ds : List Directory), x.Valid → (x.alternate ds).Valid := by
  refine ⟨fun b d hb => ?_, fun b d hb => ⟨?_, fun p hp q hq => ?_⟩,
    fun x ds hx => hx.alternate ds⟩
  · exact (LayeredBeat.admits_shape_iff.1 hb).admits_flatten d
  · exact LayeredBeat.admits_shape_iff.2 (hb.valid_layered d)
  · exact Place.admits_canvasShape_iff.2 ((hb.parts p hp).places q hq)

/-- An endless beat with a walk that never ends, and one that is over as soon as it begins. -/
theorem conversions_succeed_brief :
    let endless : Float := 1.0 / 0.0
    let b : LayeredBeat Float := ⟨"b", "Endless", some endless, .park,
      [⟨"l", "anna", "Anna", "Never.", .sad, endless, none⟩], [],
      [⟨"w", "ben", some ⟨-0.1, 0.0⟩, ⟨1.1, 1.0⟩, 5e-324, endless, true, none⟩]⟩
    let part (id : Spelling) (m : Movement Float) : Part Float :=
      ⟨id, id, .male, m, ⟨.neutral, 1.0⟩, none, .center, none⟩
    let c : Beat Float := ⟨"c", "Brief", "", 5e-324, {
      parts := [part "anna" ⟨.exit, some ⟨0.5, 0.5⟩, none, .fast⟩,
        part "ben" ⟨.move, none, some ⟨-0.1, 1.0⟩, .slow⟩]
      backdrop := none
      lighting := none
      sound := none
      lines := [⟨"l", "anna", "Gone!", .happy, endless, 0⟩] }⟩
    let d : Directory := [⟨"anna", "Anna", .female⟩, ⟨"ben", "Ben", .male⟩]
    LayeredBeat.shape.Admits b ∧ Beat.shape.Admits (b.flatten d) ∧
      c.Valid ∧ LayeredBeat.shape.Admits (c.layered d) ∧
      Draft.Valid (.flat c) ∧
      ((Draft.flat c).alternate [d, d, [], d]).Valid := by
  intro endless b part c d
  have hb : LayeredBeat.shape.Admits b := LayeredBeat.admits_shape_iff.2 (by decide +kernel)
  have hc : c.Valid := by decide +kernel
  obtain ⟨hflatten, hlayered, hrun⟩ := conversions_succeed
  exact ⟨hb, hflatten b d hb, hc, (hlayered c d hc).1, hc, hrun (.flat c) [d, d, [], d] hc⟩

end Promptbook
