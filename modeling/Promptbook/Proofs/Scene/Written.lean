import Promptbook.Proofs.Record.Admitted
import Promptbook.Proofs.Scene.Compiled
import Promptbook.Scene.Record

/-!
# Scripts that can be written

Only half of a surrogate pair in a text keeps a document from being written.  A script takes its
texts from the beats: the ids and names of the parts, and what the lines say.  So it can be written
when the beats can.
-/

namespace Promptbook

open Record Record.Shape

/-- The name of a picture as a JSON value. -/
def Handles.json (name : String) : Json := .text name

/-- A script with pictures by name as a document. -/
def Script.document (s : Script String) : Json := Script.shape.write (s.map Handles.json)

/-! ## Texts of a beat -/

theorem Part.spelled_iff {p : Part Float} : Part.shape.Spelled p ↔ p.characterId.isWhole = true ∧
    p.name.isWhole = true ∧ ∀ g ∈ p.gesture, ∀ t ∈ g.target, t.isWhole = true := by
  simp [shape, Movement.shape, Place.shape, Place.fields, Emotion.shape, Gesture.shape, Voice.shape,
    Spelled, Json.membersWhole, Json.memberWhole, Json.isWhole]

theorem Line.spelled_iff {l : Line Float} : Line.shape.Spelled l ↔
    l.id.isWhole = true ∧ l.characterId.isWhole = true ∧ l.text.isWhole = true := by
  simp [shape, Spelled, Json.membersWhole]

namespace Beat

variable {b : Beat Float}

theorem spelled_layers (h : Beat.shape.Spelled b) : (∀ p ∈ b.layers.parts, Part.shape.Spelled p) ∧
    ∀ l ∈ b.layers.lines, Line.shape.Spelled l := by
  obtain ⟨⟨-, -, -, -, ⟨⟨hparts, -, -, -, hlines, -⟩, -⟩, -⟩, -⟩ := h
  exact ⟨hparts, hlines⟩

end Beat

/-! ## Texts of a scene -/

theorem Figure.spelled_iff {f : Figure Json} : Figure.shape.Spelled f ↔ f.id.isWhole = true ∧
    f.name.isWhole = true ∧ f.image.finite.isWhole = true ∧
      ∀ t ∈ f.description, t.isWhole = true := by
  simp [shape, Point.shape, Voice.shape, Spelled, Json.membersWhole]

theorem Bubble.spelled_iff {u : Bubble} : Bubble.shape.Spelled u ↔
    u.text.isWhole = true ∧ ∀ t ∈ u.speaker, t.isWhole = true := by
  simp [shape, Point.shape, Voice.shape, Spelled, Json.membersWhole]

theorem Scene.spelled_iff {s : Scene Json} : Scene.shape.Spelled s ↔
    s.backdrop.finite.isWhole = true ∧ (∀ f ∈ s.figures, Figure.shape.Spelled f) ∧
      ∀ u ∈ s.bubbles, Bubble.shape.Spelled u := by
  simp [shape, Spelled, Json.membersWhole]

theorem Handles.isWhole_json (name : String) : (json name).finite.isWhole = true :=
  Spelling.isWhole_ofString name

theorem Part.spelled_figure {p : Part Float} (hp : Part.shape.Spelled p) (size : StageSize) :
    Figure.shape.Spelled ((p.figure .names size).map Handles.json) := by
  obtain ⟨hid, hname, -⟩ := Part.spelled_iff.1 hp
  exact Figure.spelled_iff.2 ⟨hid, hname, Handles.isWhole_json _, nofun⟩

namespace Beat

variable {b : Beat Float} {size : StageSize}

/-- The scene of a beat that can be written can be written. -/
theorem spelled_scene (hb : Beat.shape.Spelled b) {s : Scene String}
    (hs : b.scene .names size = .ok s) : Scene.shape.Spelled (s.map Handles.json) := by
  obtain ⟨us, n, hus, -, rfl⟩ := scene_eq_ok_iff.1 hs
  obtain ⟨hparts, hlines⟩ := spelled_layers hb
  refine Scene.spelled_iff.2 ⟨Handles.isWhole_json _, ?_, ?_⟩
  · change ∀ f ∈ (b.figures .names size).map (·.map Handles.json), Figure.shape.Spelled f
    rw [List.forall_mem_map, figures, List.forall_mem_map]
    exact fun p hp => Part.spelled_figure (hparts p hp) size
  · refine forall_mem_of_forall₂ hus fun l hl u hu => ?_
    obtain ⟨m, -, rfl⟩ := Line.bubble_eq_ok_iff.1 hu
    refine Bubble.spelled_iff.2 ⟨(Line.spelled_iff.1 (hlines l hl)).2.2, fun t ht => ?_⟩
    obtain ⟨f, hf, rfl⟩ := Option.map_eq_some_iff.1 ht
    obtain ⟨p, hp, rfl⟩ := List.mem_map.1 (List.mem_of_find?_eq_some hf)
    exact (Part.spelled_iff.1 (hparts p hp)).2.1

end Beat

/-- The script of beats that can be written can be written. -/
theorem Script.exists_written_document {bs : List (Beat Float)}
    (hbs : ∀ b ∈ bs, Beat.shape.Spelled b) {size : StageSize} {debug : Bool} {s : Script String}
    (hs : Script.ofBeats .names size debug bs = .ok s) (indent : Option Nat) :
    ∃ text, s.document.written indent = .ok text := by
  obtain ⟨scenes, hscenes, rfl⟩ := exists_of_map_eq_ok hs
  have hspelled : Script.shape.Spelled ((⟨scenes, debug⟩ : Script String).map Handles.json) := by
    refine ⟨⟨List.forall_mem_map.2 ?_, trivial, trivial⟩, rfl⟩
    exact forall_mem_of_forall₂ (mapM_eq_ok_iff.1 hscenes) fun b hb _ =>
      Beat.spelled_scene (hbs b hb)
  exact ⟨_, Json.written_of_isWhole indent ((holds_isWhole_write_iff_spelled _ _).2 hspelled)⟩

end Promptbook
