import Promptbook.Proofs.Beat.Valid
import Promptbook.Proofs.Number.Packing
import Promptbook.Proofs.Scene.Compiled

/-!
# Layered beats whose times have milliseconds

A time has a value in milliseconds where its thousandfold is finite, which leaves out infinite times
and also very long finite ones.  The times that reach a scene are the duration of the layered beat
and the starts of its lines; they are also the only numbers of a flattened beat that need not be
finite.
-/

namespace Promptbook

open Record

/-- A factor of a finite product is finite, unless the other is to blame. -/
theorem Double.isFinite_of_mul {x c : Float} (hc : 0.0 < c) (hfinite : c.isFinite = true)
    (h : (x * c).isFinite = true) : x.isFinite = true := by
  obtain ⟨m, e, hm, hu⟩ := exists_of_pos hc hfinite
  change (Float.Model.pack (Float.Model.UnpackedFloat.mul .binary64 _ _)).unpack.isFinite = true
    at h
  rw [hu] at h
  change x.toModel.unpack.isFinite = true
  generalize x.toModel.unpack = u at h ⊢
  rcases u with s | _ | _ | _
  · have hmul : Float.Model.UnpackedFloat.mul .binary64 (.infinity s) (.finite .positive m e hm) =
        .infinity s := by cases s <;> rfl
    rw [hmul] at h
    cases s <;> exact absurd h (by decide)
  · exact absurd (show (Float.Model.pack .notANumber).unpack.isFinite = true from h) (by decide)
  · rfl
  · rfl

theorem exists_millis_iff {x : Float} :
    (∃ n, millis x = .ok n) ↔ (x * 1000.0).isFinite = true := by
  rw [Double.isFinite_iff, millis, Double.truncate]
  cases Double.parts (x * 1000.0) <;> simp [Except.map]

theorem isFinite_of_millis {x : Float} (h : ∃ n, millis x = .ok n) : x.isFinite = true :=
  Double.isFinite_of_mul (by decide) (by decide) (exists_millis_iff.1 h)

namespace LayeredBeat

variable {b : LayeredBeat Float} {d : Directory}

/-- Whether the times of a beat have values in milliseconds. -/
structure Timed (b : LayeredBeat Float) : Prop where
  duration : ∃ n, millis b.effectiveDuration = .ok n
  lines : ∀ l ∈ b.lines, ∃ n, millis l.start = .ok n

theorem exists_scene_flatten_iff {η : Type} {h : Handles η} {size : StageSize} :
    (∃ s, (b.flatten d).scene h size = .ok s) ↔ b.Timed := by
  rw [Beat.exists_scene_iff]
  constructor
  · rintro ⟨hlines, hduration⟩
    exact ⟨hduration, fun l hl => hlines l.line (List.mem_map_of_mem hl)⟩
  · rintro ⟨hduration, hlines⟩
    exact ⟨List.forall_mem_map.2 hlines, hduration⟩

end LayeredBeat

/-- A script can be made of flattened beats when the times of all of them have milliseconds. -/
theorem Script.exists_ofBeats_flatten_iff {η : Type} {h : Handles η} {size : StageSize}
    {debug : Bool} {bs : List (LayeredBeat Float)} {d : Directory} :
    (∃ s, Script.ofBeats h size debug (bs.map (·.flatten d)) = .ok s) ↔ ∀ b ∈ bs, b.Timed := by
  have hscenes : (∃ s, Script.ofBeats h size debug (bs.map (·.flatten d)) = .ok s) ↔
      ∃ scenes, (bs.map (·.flatten d)).mapM (Beat.scene h size) = .ok scenes := by
    rw [Script.ofBeats]
    cases (bs.map (·.flatten d)).mapM (Beat.scene h size) <;> simp [Except.map]
  simp only [hscenes, mapM_eq_ok_iff, exists_forall₂_iff, List.forall_mem_map,
    LayeredBeat.exists_scene_flatten_iff]

/-! ## The numbers of a flattened beat -/

theorem Place.isFinite_atoms {p : Place Float} (hp : p.InBounds) :
    ∀ a ∈ Place.shape.atoms p, a.isFinite = true := by
  obtain ⟨hx, hy⟩ := isFinite_of_inBounds hp
  simpa [shape, fields, Shape.atoms, Atom.isFinite] using ⟨hx, hy⟩

theorem Movement.isFinite_atoms {m : Movement Float} (hm : Movement.shape.Admits m) :
    ∀ a ∈ Movement.shape.atoms m, a.isFinite = true := by
  obtain ⟨horigin, htarget⟩ := admits_shape_iff.1 hm
  have hplace : ∀ q : Option (Place Float), (∀ p ∈ q, p.InBounds) →
      ∀ a ∈ (Shape.optional Place.shape).atoms q, a.isFinite = true := by
    intro q hq
    cases q with
    | none => exact List.forall_mem_nil _
    | some p => exact Place.isFinite_atoms (hq p rfl)
  simpa [shape, Shape.atoms, or_imp, forall_and] using ⟨hplace _ horigin, hplace _ htarget⟩

theorem Gesture.isFinite_atoms (g : Option Gesture) :
    ∀ a ∈ (Shape.optional Gesture.shape).atoms g, a.isFinite = true := by
  rcases g with _ | ⟨k, _ | t⟩ <;> simp [shape, Shape.atoms, Atom.isFinite]

namespace LayeredBeat.Valid

variable {b : LayeredBeat Float} (hb : b.Valid)

include hb

theorem isFinite_atoms_part (rank : ℕ) (c : Character) :
    ∀ a ∈ Part.shape.atoms (b.part rank c), a.isFinite = true := by
  have hatoms : Part.shape.atoms (b.part rank c) = [.text c.id, .text c.name] ++
      (Movement.shape.atoms (b.part rank c).movement ++
        ([.number 0.7] ++ (Shape.optional Gesture.shape).atoms (b.part rank c).gesture)) := by
    simp [Part.shape, Emotion.shape, Shape.atoms, part]
  have hmovement := Movement.isFinite_atoms (Part.admits_shape_iff.1 (hb.admits_part rank c)).1
  rw [hatoms, List.forall_mem_append, List.forall_mem_append, List.forall_mem_append]
  exact ⟨by simp [Atom.isFinite], hmovement, by decide, Gesture.isFinite_atoms _⟩

/-- All numbers of a flattened beat are finite when its times have milliseconds. -/
theorem isFinite_atoms_flatten (ht : b.Timed) (d : Directory) :
    ∀ a ∈ Beat.shape.atoms (b.flatten d), a.isFinite = true := by
  have hatoms : Beat.shape.atoms (b.flatten d) =
      [.text b.id, .text b.name, .text "Layered beat", .number b.effectiveDuration] ++
        ((b.parts d).flatMap Part.shape.atoms ++
          b.lines.flatMap fun l => Line.shape.atoms l.line) := by
    simp [Beat.shape, Layers.shape, Backdrop.shape, Shape.atoms, flatten, List.flatMap_map]
  have hduration : b.effectiveDuration.isFinite = true := isFinite_of_millis ht.duration
  rw [hatoms, List.forall_mem_append, List.forall_mem_append, List.forall_mem_flatMap,
    List.forall_mem_flatMap]
  refine ⟨by simp [Atom.isFinite, hduration], fun p hp => ?_, fun l hl => ?_⟩
  · obtain ⟨c, -, rfl⟩ := (b.mem_parts_iff d).1 hp
    exact hb.isFinite_atoms_part _ c
  · have hstart : l.start.isFinite = true := isFinite_of_millis (ht.lines l hl)
    simp [Line.shape, Shape.atoms, Atom.isFinite, LineEntry.line, hstart]

end LayeredBeat.Valid

end Promptbook
