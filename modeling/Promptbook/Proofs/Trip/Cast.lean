import Promptbook.Proofs.Beat.Valid
import Promptbook.Proofs.Trip.Playback

/-!
# Whom a trip keeps

The layers name a character only beside something that it does: a line, a gesture, or a walk.  A
part with none of these leaves no trace in the layers, so that flattening them again cannot bring
its character back.  A part leaves a walk where it has a goal, that is where its movement carries
the end that its kind keeps: the origin of a stay, the target of an entry, and either end of any
other movement.
-/

namespace Promptbook

namespace Beat

section Traces

variable {α : Type} {b : Beat α} {p : Part α}

/-- Whether taking a beat apart leaves a trace of a part. -/
def Traces (b : Beat α) (p : Part α) : Prop :=
  p.characterId ∈ b.speakers ∨ p.gesture.isSome = true ∨ p.goal?.isSome = true

instance : Decidable (b.Traces p) := inferInstanceAs (Decidable (_ ∨ _ ∨ _))

variable (hb : b.ids.Nodup) (hp : p ∈ b.layers.parts)

include hb hp

/-- With one part for each character, the parts of a character are all the same. -/
theorem eq_of_characterId_eq {q : Part α} (hq : q ∈ b.layers.parts)
    (h : q.characterId = p.characterId) : q = p := by
  have hfound := partOf?_of_mem hb hq
  rw [h, partOf?_of_mem hb hp] at hfound
  exact (Option.some.inj hfound).symm

theorem mem_gesturing_iff : p.characterId ∈ b.gesturing ↔ p.gesture.isSome = true := by
  rw [gesturing, List.mem_map]
  constructor
  · rintro ⟨q, hq, hid⟩
    obtain ⟨hq, hgesture⟩ := List.mem_filter.1 hq
    rwa [← eq_of_characterId_eq hb hp hq hid]
  · exact fun h => ⟨p, List.mem_filter.2 ⟨hp, h⟩, rfl⟩

variable [Measure α]

theorem mem_walking_iff : p.characterId ∈ b.walking ↔ p.goal?.isSome = true := by
  refine ⟨fun h => ?_, mem_walking hp⟩
  obtain ⟨w, hw, hid⟩ := List.mem_map.1 h
  obtain ⟨q, hq, hqw⟩ := List.mem_filterMap.1 hw
  obtain rfl := eq_of_characterId_eq hb hp hq ((b.characterId_of_walk? hqw).symm.trans hid)
  rw [← b.target_walk? q, hqw]
  rfl

/-- The character of a known part comes back from the layers where the part leaves a trace. -/
theorem mem_ids_trip_iff {d : Directory} (hknows : d.knows p.characterId = true) :
    p.characterId ∈ (b.trip d).ids ↔ b.Traces p := by
  rw [ids_trip, List.mem_filter, List.mem_eraseDups, List.mem_append, List.mem_append,
    mem_gesturing_iff hb hp, mem_walking_iff hb hp, or_assoc]
  exact and_iff_left hknows

end Traces

end Beat

/-- Re-entering the editor keeps the cast as far as it leaves a trace.  Where each character has one
part and the directory knows all of them, a beat holds a character exactly once after a trip if it
speaks, makes a gesture or has a goal, and not at all otherwise. -/
theorem count_ids_trip {α : Type} [Measure α] (b : Beat α) (d : Directory) (hb : b.ids.Nodup)
    (hknows : ∀ id ∈ b.ids, d.knows id = true) (p : Part α) (hp : p ∈ b.layers.parts) :
    (b.trip d).ids.count p.characterId = if b.Traces p then 1 else 0 := by
  have hmem := Beat.mem_ids_trip_iff hb hp (hknows p.characterId (List.mem_map_of_mem hp))
  split
  · next h => exact List.count_eq_one_of_mem Beat.nodup_ids_trip (hmem.2 h)
  · next h => exact List.count_eq_zero.2 fun hid => h (hmem.1 hid)

/-- One character speaks, one waves and one stays at a place; the fourth only enters from somewhere,
and is lost. -/
theorem count_ids_trip_quartet :
    let part (id : Spelling) (m : Movement Float) (g : Option Gesture) : Part Float :=
      ⟨id, id, .female, m, ⟨.neutral, 0.5⟩, g, .center, none⟩
    let cast : List (Part Float) := [
      part "anna" ⟨.stay, none, some ⟨0.2, 0.5⟩, .normal⟩ none,
      part "ben" ⟨.stay, none, none, .normal⟩ (some ⟨.wave, none⟩),
      part "cleo" ⟨.stay, some ⟨0.5, 0.5⟩, none, .normal⟩ none,
      part "dora" ⟨.enter, some ⟨0.5, 0.5⟩, none, .normal⟩ none]
    let b : Beat Float := ⟨"b", "Quartet", "", 4.0,
      { Layers.empty with parts := cast, lines := [⟨"l", "anna", "Well?", .neutral, 0.0, 50⟩] }⟩
    let d : Directory := ["anna", "ben", "cleo", "dora"].map fun id => ⟨id, id, .female⟩
    b.ids.Nodup ∧ (∀ id ∈ b.ids, d.knows id = true) ∧
      (∀ p ∈ b.layers.parts, (b.trip d).ids.count p.characterId = if b.Traces p then 1 else 0) ∧
      (cast.map fun p => decide (b.Traces p)) = [true, true, true, false] := by
  intro part cast b d
  have hb : b.ids.Nodup := by decide
  have hknows : ∀ id ∈ b.ids, d.knows id = true := by decide
  exact ⟨hb, hknows, count_ids_trip b d hb hknows, by decide⟩

/-- A character that silently stays, nowhere in particular, is lost. -/
theorem silent_stay_lost :
    let p : Part Float :=
      ⟨"anna", "Anna", .female, ⟨.stay, none, none, .normal⟩, ⟨.neutral, 0.5⟩, none, .center, none⟩
    let b : Beat Float := ⟨"b", "Silence", "", 3.0, { Layers.empty with parts := [p] }⟩
    let d : Directory := [⟨"anna", "Anna", .female⟩]
    Beat.shape.Admits b ∧ b.ids = ["anna"] ∧ d.knows "anna" = true ∧ (b.trip d).ids = [] := by
  intro p b d
  have hp : Part.shape.Admits p := by
    rw [Part.admits_shape_iff, Movement.admits_shape_iff, Emotion.admits_shape_iff]
    exact ⟨⟨nofun, nofun⟩, by decide, nofun⟩
  have hlayers : Layers.shape.Admits b.layers :=
    Layers.admits_shape_iff.2 ⟨List.forall_mem_singleton.2 hp, nofun, nofun, nofun⟩
  exact ⟨Beat.admits_shape_iff.2 ⟨by decide, hlayers⟩, rfl, rfl, by decide⟩

end Promptbook
