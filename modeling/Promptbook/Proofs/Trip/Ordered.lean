import Promptbook.Proofs.Trip.Playback

/-!
# A trip that keeps the cast in order

A trip draws the cast in the order of first mention, lines before gestures before movements.  That
is the order of the parts where the first parts have the lines, one after the other, and either
nobody makes a gesture or everybody does.  Where moreover the directory is the cast itself, a scene
looks and sounds after the trip as it did before, figure by figure and bubble by bubble.  By which
names the layers know the speakers on the way does not matter.
-/

namespace Promptbook

/-- Naming some of the first ids beforehand changes nothing. -/
theorem eraseDups_prefix_append {ι : Type} [DecidableEq ι] {xs zs : List ι} (h : xs <+: zs) :
    (xs ++ zs).eraseDups = zs.eraseDups := by
  obtain ⟨ys, rfl⟩ := h
  rw [← List.append_assoc, eraseDups_append_of_subset (List.Subset.refl xs)]

/-- A figure as far as it is kept: who it is, where it stands and how it speaks. -/
structure Cue where
  id : Spelling
  name : Spelling
  gender : Gender
  position : Point
  voice : Voice Float
  deriving DecidableEq, Repr

variable {α η : Type}

def Figure.cue (c : Figure η) : Cue := ⟨c.id, c.name, c.gender, c.position, c.voice⟩

/-- The character that a part belongs to. -/
def Part.character (p : Part α) : Character := ⟨p.characterId, p.name, p.gender⟩

/-- A bubble depends on the cues of the figures alone. -/
theorem Line.bubbleAfter_congr {cs es : List (Figure η)}
    (h : cs.map Figure.cue = es.map Figure.cue) (l : Line Float) (n : Int) :
    l.bubbleAfter cs n = l.bubbleAfter es n := by
  have hspeaker : ∀ fs : List (Figure η), (speaker? fs l.characterId).map Figure.cue =
      (fs.map Figure.cue).find? fun q => q.id == l.characterId := by
    intro fs
    rw [List.find?_map]
    rfl
  have hcue : (speaker? cs l.characterId).map Figure.cue =
      (speaker? es l.characterId).map Figure.cue := by
    rw [hspeaker, hspeaker, h]
  rw [bubbleAfter, bubbleAfter]
  generalize speaker? cs l.characterId = c, speaker? es l.characterId = e at hcue
  rcases c with _ | c <;> rcases e with _ | e
  · rfl
  · cases hcue
  · cases hcue
  · obtain ⟨-, hname, -, hposition, hvoice⟩ := Cue.mk.inj (Option.some.inj hcue)
    simp only [bubblePoint, Option.map_some, hname, hposition, hvoice]

namespace Beat

/-- What a trip needs to keep the cast in order: the directory is the cast, every movement carries
the end that it is shown at, the first parts have the lines, and nobody makes a gesture or everybody
does. -/
structure InOrder (d : Directory) (b : Beat α) : Prop where
  characters : b.layers.parts.map Part.character = d
  nodup : (d.map (·.id)).Nodup
  shownEnd : ∀ p ∈ b.layers.parts, p.shownEnd?.isSome
  speakers : b.speakers <+: b.ids
  gesturing : b.gesturing = [] ∨ b.gesturing = b.ids

variable [Measure α] {b : Beat α} {d : Directory}

/-- A part whose movement leads somewhere is walked. -/
theorem walking_of_shownEnd (h : ∀ p ∈ b.layers.parts, p.shownEnd?.isSome) : b.walking = b.ids := by
  rw [walking, ids, List.map_filterMap, ← List.filterMap_eq_map]
  refine List.filterMap_congr fun p hp => ?_
  have hgoal := b.target_walk? p
  rw [Part.goal?_of_shownEnd? (h p hp)] at hgoal
  obtain ⟨w, hw, -⟩ := Option.map_eq_some_iff.1 hgoal
  rw [hw, Option.map_some, b.characterId_of_walk? hw]
  rfl

theorem lines_flatten_layered (d' : Directory) :
    ((b.layered d').flatten d).layers.lines = b.layers.lines.map Line.settled := by
  simp [Line.settled, layered, LayeredBeat.flatten, LineEntry.line, Line.entry, Function.comp_def]

namespace InOrder

variable (hb : b.InOrder d)

include hb

omit [Measure α] in
theorem ids_eq : b.ids = d.map (·.id) := by
  rw [← hb.characters, List.map_map]
  rfl

omit [Measure α] in
theorem nodup_ids : b.ids.Nodup := by
  rw [hb.ids_eq]
  exact hb.nodup

/-- The characters are mentioned in the order of their parts. -/
theorem involved (d' : Directory) : (b.layered d').involved = b.ids := by
  have hids : (b.speakers ++ b.ids).eraseDups = b.ids := by
    rw [eraseDups_prefix_append hb.speakers, eraseDups_of_nodup hb.nodup_ids]
  rw [involved_layered, walking_of_shownEnd hb.shownEnd]
  rcases hb.gesturing with hnone | hall
  · rw [hnone, List.append_nil, hids]
  · have htwice := eraseDups_append_of_subset (List.subset_append_right b.speakers b.ids) []
    rw [List.append_nil, List.append_nil] at htwice
    rw [hall, htwice, hids]

/-- And all of them are known. -/
theorem known (d' : Directory) : (b.layered d').known d = d := by
  have hlookup : ∀ c ∈ d, d.lookup? c.id = some c := fun c hc => find?_of_nodup hb.nodup hc
  rw [LayeredBeat.known, hb.involved, hb.ids_eq, List.filterMap_map]
  exact (List.filterMap_congr hlookup).trans List.filterMap_some

end InOrder

end Beat

/-! ## Figures and bubbles -/

section Figures

variable {h : Handles η} {size : StageSize} {b : Beat Float} {d : Directory}

/-- The cue of a character in a beat. -/
def Beat.cueOf (b : Beat Float) (size : StageSize) (c : Character) : Option Cue :=
  (b.shownPlace? c.id).map fun q => ⟨c.id, c.name, c.gender, q.point size, .usual⟩

namespace Beat.InOrder

variable (hb : b.InOrder d)

include hb

theorem cues_figures (hvoice : ∀ p ∈ b.layers.parts, p.voice = none) :
    (b.figures h size).map (fun c => some c.cue) = d.map (b.cueOf size) := by
  rw [figures, ← hb.characters, List.map_map, List.map_map]
  refine List.map_congr_left fun p hp => ?_
  have hplace : b.shownPlace? p.character.id = some p.shownAt := by
    rw [shownPlace?, show p.character.id = p.characterId from rfl, partOf?_of_mem hb.nodup_ids hp]
    rfl
  rw [Function.comp_apply, Function.comp_apply, cueOf, hplace, Option.map_some]
  simp [Part.figure, Figure.cue, hvoice p hp, Part.character, Place.point]

theorem cues_figures_flatten (d' : Directory) :
    (((b.layered d').flatten d).figures h size).map (fun c => some c.cue) =
      d.map (b.cueOf size) := by
  rw [figures, List.map_map]
  change ((b.layered d').parts d).map _ = _
  rw [LayeredBeat.parts_eq_map, hb.known, List.map_map]
  refine List.map_congr_left fun c hc => ?_
  have hid : c.id ∈ b.ids := by
    rw [hb.ids_eq]
    exact List.mem_map_of_mem hc
  obtain ⟨p, hp⟩ := Option.isSome_iff_exists.1 (isSome_partOf?_iff.2 hid)
  have hgoal := Part.goal?_of_shownEnd? (hb.shownEnd p (List.mem_of_find?_eq_some hp))
  rw [Function.comp_apply, Function.comp_apply, part_layered hb.nodup_ids, cueOf, shownPlace?, hp,
    Option.bind_some, hgoal]
  rfl

/-- The scene after a trip looks and sounds as before, with the names of any directory between. -/
theorem exists_scene_flatten (hvoice : ∀ p ∈ b.layers.parts, p.voice = none)
    (hspeed : ∀ l ∈ b.layers.lines, l.typingSpeed = usualTypingSpeed) (d' : Directory)
    {s : Scene η} (hs : b.scene h size = .ok s) :
    ∃ s', ((b.layered d').flatten d).scene h size = .ok s' ∧
      s'.figures.map Figure.cue = s.figures.map Figure.cue ∧ s'.bubbles = s.bubbles ∧
        s'.durationMillis = s.durationMillis := by
  obtain ⟨bubbles, n, hbubbles, hn, rfl⟩ := scene_eq_ok_iff.1 hs
  have hcues : (((b.layered d').flatten d).figures h size).map Figure.cue =
      (b.figures h size).map Figure.cue := by
    refine List.map_injective_iff.2 (fun _ _ => Option.some.inj) ?_
    rw [List.map_map, List.map_map]
    exact (hb.cues_figures_flatten d').trans (hb.cues_figures hvoice).symm
  refine ⟨_, scene_eq_ok_iff.2 ⟨bubbles, n, ?_, hn, rfl⟩, hcues, rfl, rfl⟩
  rw [lines_flatten_layered, List.forall₂_map_left_iff]
  refine ((List.forall₂_and_left _ _).2 ⟨hspeed, hbubbles⟩).imp fun l u ⟨hl, hu⟩ => ?_
  obtain ⟨m, hm, rfl⟩ := Line.bubble_eq_ok_iff.1 hu
  refine Line.bubble_eq_ok_iff.2 ⟨m, hm, ?_⟩
  rw [Line.bubbleAfter_congr hcues, Line.settled, ← hl]
  rfl

end Beat.InOrder

end Figures

end Promptbook
