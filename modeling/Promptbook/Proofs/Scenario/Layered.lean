import Promptbook.Proofs.Scenario.RoundTrip
import Promptbook.Proofs.Scene.Timed

/-!
# The scenario of layered beats

Layered beats from a text keep to the bounds of their schema, and so do the beats that they flatten
to.  The scenario of these beats is therefore read back from its text as soon as it can be written
and all its times have milliseconds.
-/

namespace Promptbook

open Record Record.Shape

/-! ## What is loaded -/

theorem LayeredBeat.sound_shape : LayeredBeat.shape.Sound := by
  have hstart : (0.0 : Float) ≤ 0.0 ∧ (0.0 : Float) ≤ 1.0 := by decide
  simp [shape, locationShape, linesShape, gesturesShape, walksShape, wrapped, LineEntry.shape,
    GestureEntry.shape, WalkEntry.shape, Place.canvasShape, Place.fields, Shape.Sound,
    Shape.Admits, Range.time_fault?_eq_none_iff, hstart]

/-- Layered beats in a text keep to the schema. -/
theorem valid_of_readLayeredBeats {text : String} {bs : List (LayeredBeat Float)}
    (h : readLayeredBeats text = .ok bs) : ∀ b ∈ bs, b.Valid := by
  rw [readLayeredBeats, readDocument] at h
  cases hj : Json.parse .document text with
  | error m =>
    rw [hj] at h
    cases h
  | ok j =>
    rw [hj] at h
    have hbrief := Json.parse_brief (d := .document) (by decide) hj
    have hsound : (list LayeredBeat.shape).Sound := LayeredBeat.sound_shape
    have hadmits := (list LayeredBeat.shape).admits_of_readAt hsound .document hbrief h
    exact fun b hb => LayeredBeat.admits_shape_iff.1 (hadmits b hb)

theorem LayeredBeat.flattenStrict_eq_ok {b : LayeredBeat Float} {d : Directory}
    {beat : Beat Float} (h : b.flattenStrict d = .ok beat) : b.flatten d = beat := by
  rw [flattenStrict] at h
  split at h
  · exact Except.ok.inj h
  · cases h

/-- Whether unknown characters are refused or dropped, each beat is flattened by itself. -/
theorem LayeredBeat.flattenAll_eq_ok {strict : Bool} {bs : List (LayeredBeat Float)}
    {d : Directory} {beats : List (Beat Float)} (h : flattenAll strict bs d = .ok beats) :
    beats = bs.map (·.flatten d) := by
  rw [flattenAll] at h
  split at h
  · have hbeats : List.Forall₂ (fun b beat => b.flatten d = beat) bs beats :=
      (mapM_eq_ok_iff.1 h).imp fun b beat => flattenStrict_eq_ok
    rw [← List.forall₂_map_left_iff (f := fun b : LayeredBeat Float => b.flatten d),
      List.forall₂_eq_eq_eq] at hbeats
    exact hbeats.symm
  · exact (Except.ok.inj h).symm

/-! ## The scenario of layered beats -/

namespace Scenario

/-- The scenario that some layered beats and their characters make. -/
def ofLayered (description : Spelling) (bs : List (LayeredBeat Float)) (d : Directory) :
    Scenario where
  description := description
  beats := bs.map (·.flatten d)
  characters := d
  origin := .layeredBeat

variable {description : Spelling} {bs : List (LayeredBeat Float)} {d : Directory}

theorem admits_ofLayered (hbs : ∀ b ∈ bs, b.Valid) : (Contents.taggedShape
    (ofLayered description bs d).origin).Admits (ofLayered description bs d).toContents := by
  have hbeats : ∀ b ∈ bs.map (·.flatten d), Beat.shape.Admits b :=
    List.forall_mem_map.2 fun b hb => (hbs b hb).admits_flatten d
  have hcharacters : ∀ c ∈ d, Character.shape.Admits c := by
    simp [Character.shape, Shape.Admits]
  exact ⟨⟨trivial, hbeats, hcharacters, trivial, trivial⟩, rfl⟩

theorem isFinite_atoms_ofLayered (hbs : ∀ b ∈ bs, b.Valid) (ht : ∀ b ∈ bs, b.Timed) :
    ∀ a ∈ (ofLayered description bs d).atoms, a.isFinite = true := by
  have hatoms : (ofLayered description bs d).atoms = .text description ::
      ((bs.map (·.flatten d)).flatMap Beat.shape.atoms ++ d.flatMap Character.shape.atoms) := by
    simp [atoms, ofLayered, Contents.taggedShape, Contents.fields, Shape.atoms]
  have hcharacters : ∀ c ∈ d, ∀ a ∈ Character.shape.atoms c, a.isFinite = true := by
    simp [Character.shape, Shape.atoms, Atom.isFinite]
  rw [hatoms, List.forall_mem_cons, List.forall_mem_append, List.forall_mem_flatMap,
    List.forall_mem_flatMap, List.forall_mem_map]
  exact ⟨rfl, fun b hb => (hbs b hb).isFinite_atoms_flatten (ht b hb) d, hcharacters⟩

/-- A text that was written is read back, also when a line break follows. -/
theorem returns_decode_of_encode {s : Scenario}
    (h : (Contents.taggedShape s.origin).Admits s.toContents) {indent : Option Nat} {out : String}
    (hout : s.encode indent = .ok out) (ending : Option Nat) :
    (∀ a ∈ s.atoms, a.isWhole = true) ∧
      Returns s s.atoms (decode (out ++ String.ofList (Json.lineBreak ending 0))) := by
  obtain ⟨hwritable, rfl⟩ := (Json.written_eq_ok_iff _ _ _).1 hout
  have hwhole := s.isWhole_write_iff.1 ((Json.unwritable?_eq_none_iff _).1 hwritable)
  exact ⟨hwhole, returns_decode_lineBreak h hwhole indent ending 0⟩

theorem spelled_beats {s : Scenario} (h : ∀ a ∈ s.atoms, a.isWhole = true) :
    ∀ b ∈ s.beats, Beat.shape.Spelled b := by
  obtain ⟨⟨-, hbeats, -⟩, -⟩ :=
    ((Contents.taggedShape s.origin).spelled_iff_atoms (Contents.faithful_taggedShape _) _).2 h
  exact hbeats

end Scenario

end Promptbook
