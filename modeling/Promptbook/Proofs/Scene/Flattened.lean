import Promptbook.Proofs.Scene.Compiled
import Promptbook.Proofs.Trip.Mention

/-!
# From layers to a scene

The scene of a flattened beat shows the characters that the layers mention and the directory knows,
and a bubble for each line.  That a bubble has its speaker rests on one fact: a line mentions its
speaker, so that a known speaker has a part, and no other part has the same id.
-/

namespace Promptbook

/-- A bubble for a line of the dialogue layer, in a scene with some figures.  A speaker that the
directory knows is named and stands below the bubble; otherwise the bubble has nobody's voice. -/
structure LineEntry.SpokenAs {η : Type} (d : Directory) (figures : List (Figure η))
    (l : LineEntry Float) (u : Bubble) : Prop where
  text : u.text = l.text
  delayMillis : millis l.start = .ok u.delayMillis
  speaker : u.speaker = (d.lookup? l.characterId).map (·.name)
  known : ∀ c, d.lookup? l.characterId = some c → ∃ f ∈ figures, f.id = l.characterId ∧
    u.position = ⟨f.position.x + 40.0, f.position.y + -60.0⟩ ∧ u.voice = some f.voice
  unknown : d.lookup? l.characterId = none → u.position = ⟨180.0, 100.0⟩ ∧ u.voice = none

namespace LayeredBeat

variable {η : Type} {h : Handles η} {size : StageSize} {d : Directory}

variable {b : LayeredBeat Float}

theorem ids_figures_flatten :
    ((b.flatten d).figures h size).map (·.id) = b.involved.filter d.knows := by
  rw [Beat.figures, List.map_map, ← ids_parts]
  rfl

/-- A figure has the name and the gender of the first character with its id. -/
theorem exists_lookup?_of_mem_figures {f : Figure η} (hf : f ∈ (b.flatten d).figures h size) :
    ∃ c, d.lookup? f.id = some c ∧ f.name = c.name ∧ f.gender = c.gender := by
  obtain ⟨p, hp, rfl⟩ := List.mem_map.1 hf
  obtain ⟨c, hc, rfl⟩ := (b.mem_parts_iff d).1 hp
  exact ⟨c, ((b.mem_known_iff d).1 hc).2, rfl, rfl⟩

/-- Who speaks a line is the figure of the character whom the directory knows by its id. -/
theorem speaker?_flatten {l : LineEntry Float} (hl : l ∈ b.lines) :
    speaker? ((b.flatten d).figures h size) l.characterId =
      (d.lookup? l.characterId).map fun c =>
        (b.part (b.rank l.characterId) c).figure h size := by
  have hid : l.characterId ∈ b.mentioned :=
    List.mem_append_left _ (List.mem_append_left _ (List.mem_map_of_mem hl))
  rw [Beat.speaker?_figures, show (b.flatten d).layers.parts = b.parts d from rfl,
    b.find?_parts hid, Option.map_map]
  rfl

theorem spokenAs_of_bubble {l : LineEntry Float} (hl : l ∈ b.lines) {u : Bubble}
    (hu : l.line.bubble ((b.flatten d).figures h size) = .ok u) :
    l.SpokenAs d ((b.flatten d).figures h size) u := by
  obtain ⟨n, hn, rfl⟩ := Line.bubble_eq_ok_iff.1 hu
  have hspeaker : speaker? ((b.flatten d).figures h size) l.line.characterId = _ :=
    speaker?_flatten hl
  cases hc : d.lookup? l.characterId with
  | none =>
    rw [hc] at hspeaker
    refine ⟨rfl, hn, ?_, fun c hc' => ?_, fun _ => ?_⟩
    · rw [Line.bubbleAfter, hspeaker, hc]
      rfl
    · rw [hc] at hc'
      cases hc'
    · rw [Line.bubbleAfter, hspeaker]
      exact ⟨rfl, rfl⟩
  | some c =>
    rw [hc, Option.map_some] at hspeaker
    have hid := Directory.id_of_lookup? hc
    refine ⟨rfl, hn, ?_, fun _ _ => ?_, fun hc' => ?_⟩
    · rw [Line.bubbleAfter, hspeaker, hc]
      rfl
    · refine ⟨_, List.mem_of_find?_eq_some hspeaker, hid, ?_⟩
      rw [Line.bubbleAfter, hspeaker]
      exact ⟨rfl, rfl⟩
    · rw [hc] at hc'
      cases hc'

end LayeredBeat

/-- From layers to scene nobody is lost, duplicated or mislabelled: the figures are the characters
that the layers mention and the directory knows, each once and in the order of first mention, and
the bubbles are the lines in their order, each with the speaker whom the directory knows. -/
theorem scene_of_layers {η : Type} (h : Handles η) (size : StageSize) (d : Directory)
    (b : LayeredBeat Float) (s : Scene η) (hs : (b.flatten d).scene h size = .ok s) :
    s.figures.map (·.id) = b.mentioned.eraseDups.filter d.knows ∧
    (s.figures.map (·.id)).Nodup ∧
    (∀ f ∈ s.figures, ∃ c, d.lookup? f.id = some c ∧ f.name = c.name ∧ f.gender = c.gender) ∧
    List.Forall₂ (LineEntry.SpokenAs d s.figures) b.lines s.bubbles := by
  obtain ⟨us, n, hus, -, rfl⟩ := Beat.scene_eq_ok_iff.1 hs
  have hids : ((b.flatten d).figures h size).map (·.id) = b.involved.filter d.knows :=
    b.ids_figures_flatten
  refine ⟨hids, ?_, fun f hf => b.exists_lookup?_of_mem_figures hf, ?_⟩
  · change (((b.flatten d).figures h size).map (·.id)).Nodup
    rw [hids]
    exact b.nodup_involved.filter _
  · rw [show (b.flatten d).layers.lines = b.lines.map (·.line) from rfl,
      List.forall₂_map_left_iff] at hus
    exact (List.forall₂_and_left _ _).2 ⟨fun l hl => hl, hus⟩ |>.imp
      fun l u hlu => b.spokenAs_of_bubble hlu.1 hlu.2

/-- The first of two characters with one id speaks after a ghost whom the directory does not know,
and somebody bows. -/
theorem scene_of_layers_ghost :
    let anna : LineEntry Float := ⟨"l2", "anna", "Anna", "Who is there?", .fearful, 1.5, none⟩
    let ghost : LineEntry Float := ⟨"l1", "ghost", "Unknown", "Boo!", .calm, 0.0, none⟩
    let b : LayeredBeat Float :=
      ⟨"b", "Night", some 4.0, .stageFloor, [ghost, anna], [⟨"g", "ben", .bow, 0.0, none⟩],
        [⟨"w", "anna", none, ⟨0.5, 0.5⟩, 0.0, 1.0, false, none⟩]⟩
    let d : Directory :=
      [⟨"ben", "Ben", .male⟩, ⟨"anna", "Anna", .female⟩, ⟨"anna", "Anton", .male⟩]
    ∃ s, (b.flatten d).scene Handles.names .usual = .ok s ∧
      s.figures.map (·.id) = ["anna", "ben"] ∧ (s.figures.map (·.id)).Nodup ∧
      (∀ f ∈ s.figures, ∃ c, d.lookup? f.id = some c ∧ f.name = c.name ∧ f.gender = c.gender) ∧
      List.Forall₂ (LineEntry.SpokenAs d s.figures) b.lines s.bubbles := by
  intro anna ghost b d
  have hlines : ∀ l ∈ b.lines.map (·.line), ∃ n, millis l.delay = .ok n := by
    rw [List.forall_mem_map, List.forall_mem_cons, List.forall_mem_singleton]
    exact ⟨⟨0, by decide⟩, ⟨1500, by decide⟩⟩
  obtain ⟨s, hs⟩ : ∃ s, (b.flatten d).scene Handles.names .usual = .ok s :=
    Beat.exists_scene_iff.2 ⟨hlines, 4000, by decide⟩
  obtain ⟨hids, hapart, hfigures, hspoken⟩ := scene_of_layers Handles.names .usual d b s hs
  exact ⟨s, hs, hids.trans (by decide), hapart, hfigures, hspoken⟩

end Promptbook
