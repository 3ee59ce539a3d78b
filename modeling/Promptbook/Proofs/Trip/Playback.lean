import Promptbook.Beat.Template
import Promptbook.Proofs.Scene.Compiled
import Promptbook.Proofs.Trip.Settled

/-!
# A trip moves nobody on playback

Playback shows a part at one end of its movement, and a trip lets the part stay there.  Where the
directory knows the whole cast and every movement carries the end that it is shown at, a beat
therefore plays alike before and after a trip, though its cast may be drawn in another order.
-/

namespace Promptbook

variable {α : Type}

/-- The end of its movement that a part is shown at, if the movement carries it. -/
def Part.shownEnd? (p : Part α) : Option (Place α) :=
  match p.movement.kind with
  | .stay => p.movement.origin
  | .enter | .exit | .move | .approach | .retreat => p.movement.target

/-- A line as a trip leaves it. -/
def Line.settled (l : Line α) : Line α :=
  { l with mood := (Tone.ofMood l.mood).mood, typingSpeed := usualTypingSpeed }

/-- A part that is led to the end it is shown at is shown at its goal. -/
theorem Part.goal?_of_shownEnd? [Measure α] {p : Part α} (h : p.shownEnd?.isSome) :
    p.goal? = some p.shownAt := by
  obtain ⟨q, hq⟩ := Option.isSome_iff_exists.1 h
  cases hk : p.movement.kind <;> simp only [shownEnd?, hk] at hq <;> simp [goal?, shownAt, hk, hq]

/-- Two bubbles that say the same at the same time and place, with a speaker or without one. -/
structure Bubble.SamePlayback (u v : Bubble) : Prop where
  text : u.text = v.text
  delayMillis : u.delayMillis = v.delayMillis
  position : u.position = v.position
  speaker : u.speaker.isSome = v.speaker.isSome

/-- Two scenes that show the same characters at the same places and the same bubbles in the same
order. -/
structure Scene.SamePlayback {η : Type} (s t : Scene η) : Prop where
  ids : ∀ id, id ∈ s.figures.map (·.id) ↔ id ∈ t.figures.map (·.id)
  position : ∀ c ∈ s.figures, ∀ e ∈ t.figures, c.id = e.id → c.position = e.position
  durationMillis : s.durationMillis = t.durationMillis
  bubbles : List.Forall₂ Bubble.SamePlayback s.bubbles t.bubbles

theorem forall₂_of_common {ρ σ τ : Type} {R : ρ → σ → Prop} {S : ρ → τ → Prop}
    {T : σ → τ → Prop} {xs : List ρ} {ys : List σ} {zs : List τ} (hR : List.Forall₂ R xs ys)
    (hS : List.Forall₂ S xs zs) (hT : ∀ x y z, R x y → S x z → T y z) : List.Forall₂ T ys zs := by
  induction hR generalizing zs with
  | nil => cases hS; exact .nil
  | cons hxy _ ih =>
    cases hS with
    | cons hxz hS => exact .cons (hT _ _ _ hxy hxz) (ih hS)

namespace Beat

variable [Measure α]

/-- Where the part of a character is shown. -/
def shownPlace? (b : Beat α) (id : Spelling) : Option (Place α) :=
  (b.partOf? id).map (·.shownAt)

/-- What a trip needs to leave playback alone: one part for each character, a directory that knows
the whole cast, no movement without the end it is shown at, and no known speaker off stage. -/
structure Playable (d : Directory) (b : Beat α) : Prop where
  nodup : b.ids.Nodup
  knows : ∀ id ∈ b.ids, d.knows id = true
  shownEnd : ∀ p ∈ b.layers.parts, p.shownEnd?.isSome
  speakers : ∀ id ∈ b.speakers, d.knows id = true → id ∈ b.ids

variable {b : Beat α} {d : Directory}

omit [Measure α] in
theorem isSome_partOf?_iff {id : Spelling} : (b.partOf? id).isSome = true ↔ id ∈ b.ids := by
  simp [partOf?, ids]

omit [Measure α] in
theorem gesturing_subset : b.gesturing ⊆ b.ids := List.map_subset _ (List.filter_subset_self _)

theorem walking_subset : b.walking ⊆ b.ids := by
  intro id hid
  obtain ⟨w, hw, rfl⟩ := List.mem_map.1 hid
  obtain ⟨p, hp, hpw⟩ := List.mem_filterMap.1 hw
  rw [b.characterId_of_walk? hpw]
  exact List.mem_map_of_mem hp

theorem mem_walking {p : Part α} (hp : p ∈ b.layers.parts) (h : p.goal?.isSome) :
    p.characterId ∈ b.walking := by
  rw [← b.target_walk? p, Option.isSome_map] at h
  obtain ⟨w, hw⟩ := Option.isSome_iff_exists.1 h
  rw [← b.characterId_of_walk? hw]
  exact List.mem_map_of_mem (List.mem_filterMap.2 ⟨p, hp, hw⟩)

theorem lines_trip : (b.trip d).layers.lines = b.layers.lines.map Line.settled := by
  simp [Line.settled, trip, layered, LayeredBeat.flatten, LineEntry.line, Line.entry,
    Function.comp_def]

theorem nodup_ids_trip : (b.trip d).ids.Nodup := (b.layered d).nodup_ids_flatten d

namespace Playable

theorem mem_ids_trip_iff (hb : b.Playable d) {id : Spelling} :
    id ∈ (b.trip d).ids ↔ id ∈ b.ids := by
  rw [ids_trip, List.mem_filter, List.mem_eraseDups]
  constructor
  · rintro ⟨hid, hknows⟩
    rcases List.mem_append.1 hid with hid | hid
    · rcases List.mem_append.1 hid with hid | hid
      · exact hb.speakers id hid hknows
      · exact gesturing_subset hid
    · exact walking_subset hid
  · intro hid
    refine ⟨List.mem_append_right _ ?_, hb.knows id hid⟩
    obtain ⟨p, hp, rfl⟩ := List.mem_map.1 hid
    refine mem_walking hp ?_
    rw [Part.goal?_of_shownEnd? (hb.shownEnd p hp)]
    rfl

/-- A trip shows every character where it was shown before. -/
theorem shownPlace?_trip (hb : b.Playable d) (id : Spelling) :
    (b.trip d).shownPlace? id = b.shownPlace? id := by
  have hmem : (b.trip d).shownPlace? id = none ↔ b.shownPlace? id = none := by
    rw [shownPlace?, shownPlace?, Option.map_eq_none_iff, Option.map_eq_none_iff,
      ← Option.not_isSome_iff_eq_none, ← Option.not_isSome_iff_eq_none, isSome_partOf?_iff,
      isSome_partOf?_iff, hb.mem_ids_trip_iff]
  cases hp : b.partOf? id with
  | none =>
    have hnone : b.shownPlace? id = none := by rw [shownPlace?, hp]; rfl
    rw [hnone, hmem, hnone]
  | some p =>
    cases hq : (b.trip d).partOf? id with
    | none =>
      have hnone : (b.trip d).shownPlace? id = none := by rw [shownPlace?, hq]; rfl
      rw [hnone, hmem.1 hnone]
    | some q =>
      have hid : q.characterId = id := by simpa using List.find?_some hq
      obtain ⟨c, -, rfl⟩ :=
        ((b.layered d).mem_parts_iff d).1 (List.mem_of_find?_eq_some hq)
      rw [part_layered hb.nodup] at hid hq
      rw [shownPlace?, shownPlace?, hq, show c.id = id from hid, hp, Option.bind_some,
        Part.goal?_of_shownEnd? (hb.shownEnd p (List.mem_of_find?_eq_some hp))]
      rfl

end Playable

/-! ## Figures and bubbles -/

variable {η : Type} {h : Handles η} {size : StageSize}

theorem ids_figures (b : Beat Float) : (b.figures h size).map (·.id) = b.ids := by
  rw [figures, ids, List.map_map]
  rfl

end Beat

/-- Where a place lies on a stage of some size. -/
def Place.point (size : StageSize) (p : Place Float) : Point :=
  let (x, y) := p.scaled size.width size.height
  ⟨x, y⟩

section Figures

variable {η : Type} {h : Handles η} {size : StageSize} {b : Beat Float} {d : Directory}

/-- A bubble stands where the place of its speaker says. -/
theorem bubblePoint_congr {s t : Option (Figure η)}
    (hst : s.map (·.position) = t.map (·.position)) : bubblePoint s = bubblePoint t := by
  cases s <;> cases t <;> simp_all [bubblePoint]

namespace Beat

theorem position_speaker? (id : Spelling) :
    (speaker? (b.figures h size) id).map (·.position) =
      (b.shownPlace? id).map (Place.point size) := by
  rw [speaker?_figures, shownPlace?, Option.map_map, Option.map_map]
  rfl

theorem position_of_mem_figures (hb : b.ids.Nodup) {c : Figure η} (hc : c ∈ b.figures h size) :
    some c.position = (b.shownPlace? c.id).map (Place.point size) := by
  obtain ⟨p, hp, rfl⟩ := List.mem_map.1 hc
  rw [shownPlace?, show b.partOf? (p.figure h size).id = _ from partOf?_of_mem hb hp]
  rfl

namespace Playable

variable (hb : b.Playable d)

include hb

theorem position_speaker?_trip (id : Spelling) :
    (speaker? ((b.trip d).figures h size) id).map (·.position) =
      (speaker? (b.figures h size) id).map (·.position) := by
  rw [position_speaker?, position_speaker?, hb.shownPlace?_trip]

/-- A line gets the bubble that it had, since its speaker is shown where it was before. -/
theorem samePlayback_settled (l : Line Float) (n : Int) :
    (l.settled.bubbleAfter ((b.trip d).figures h size) n).SamePlayback
      (l.bubbleAfter (b.figures h size) n) where
  text := rfl
  delayMillis := rfl
  position := bubblePoint_congr (hb.position_speaker?_trip l.characterId)
  speaker := by
    change (Option.map _ (speaker? _ l.characterId)).isSome = _
    rw [Line.bubbleAfter, Option.isSome_map, Option.isSome_map,
      ← Option.isSome_map (f := Figure.position), hb.position_speaker?_trip, Option.isSome_map]

/-- The scenes before and after a trip play alike. -/
theorem samePlayback {s t : Scene η} (hs : (b.trip d).scene h size = .ok s)
    (ht : b.scene h size = .ok t) : s.SamePlayback t := by
  obtain ⟨us, n, hus, hn, rfl⟩ := scene_eq_ok_iff.1 hs
  obtain ⟨vs, m, hvs, hm, rfl⟩ := scene_eq_ok_iff.1 ht
  refine ⟨fun id => ?_, fun c hc e he hce => ?_, ?_, ?_⟩
  · change id ∈ ((b.trip d).figures h size).map (·.id) ↔ id ∈ (b.figures h size).map (·.id)
    rw [ids_figures, ids_figures, hb.mem_ids_trip_iff]
  · have hplace := position_of_mem_figures (b := b.trip d) nodup_ids_trip hc
    rw [hce, hb.shownPlace?_trip, ← position_of_mem_figures hb.nodup he] at hplace
    exact Option.some.inj hplace
  · have hsame : millis b.duration = .ok n := hn
    rw [hm] at hsame
    exact (Except.ok.inj hsame).symm
  · rw [lines_trip, List.forall₂_map_left_iff] at hus
    refine forall₂_of_common hus hvs fun l u v hu hv => ?_
    obtain ⟨i, hi, rfl⟩ := Line.bubble_eq_ok_iff.1 hu
    obtain ⟨j, hj, rfl⟩ := Line.bubble_eq_ok_iff.1 hv
    obtain rfl : i = j := Except.ok.inj (hi.symm.trans hj)
    exact hb.samePlayback_settled l i

end Playable

end Beat

end Figures

/-- Re-entering the editor moves nobody on playback: a playable beat becomes a scene after a trip
exactly when it does before, and the two scenes show the same characters at the same places, last
equally long, and let the same lines be spoken in the same order, time and place. -/
theorem trip_plays_alike {η : Type} (h : Handles η) (size : StageSize) (d : Directory)
    (b : Beat Float) (hb : b.Playable d) :
    ((∃ s, (b.trip d).scene h size = .ok s) ↔ ∃ t, b.scene h size = .ok t) ∧
    ∀ s t, (b.trip d).scene h size = .ok s → b.scene h size = .ok t → s.SamePlayback t := by
  refine ⟨?_, fun s t => hb.samePlayback⟩
  rw [Beat.exists_scene_iff, Beat.exists_scene_iff, Beat.lines_trip, List.forall_mem_map]
  exact Iff.rfl

/-- Two characters that leave with a wave, both known, are shown off stage before and after. -/
theorem trip_plays_alike_farewell :
    let anna : Character := ⟨"anna", "Anna", .female⟩
    let ben : Character := ⟨"ben", "Ben", .male⟩
    let b : Beat Float := (Template.farewell anna ben "Take care..." "See you").beat "b"
    let d : Directory := [anna, ben]
    b.Playable d ∧
    ((∃ s, (b.trip d).scene Handles.names .usual = .ok s) ↔
      ∃ t, b.scene Handles.names .usual = .ok t) ∧
    ∀ s t, (b.trip d).scene Handles.names .usual = .ok s → b.scene Handles.names .usual = .ok t →
      s.SamePlayback t := by
  intro anna ben b d
  have hb : b.Playable d := ⟨by decide, by decide, by decide, by decide⟩
  exact ⟨hb, trip_plays_alike Handles.names .usual d b hb⟩

end Promptbook
