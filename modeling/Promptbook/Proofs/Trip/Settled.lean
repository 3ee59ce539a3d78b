import Mathlib.Logic.Function.Iterate
import Promptbook.Beat.Template
import Promptbook.Proofs.Trip.Apart

/-!
# The round trip through the layers settles

Taking a beat apart and flattening the layers again loses much: movements become stays, facing is
reset, gestures and moods collapse and the cast is reordered.  What one trip leaves is a *settled*
beat, and a settled beat is a fixed point of the trip.

`Beat.Settled` says what a settled beat is without mentioning the trip.  `Beat.settled_trip` shows
that a trip settles any beat that gives no character two parts, `Beat.Settled.trip_eq` that it
leaves a settled beat alone, and the main statement follows from the two.
-/

namespace Promptbook

variable {α : Type} [Measure α]

/-- A beat taken apart into layers and flattened again. -/
def Beat.trip (d : Directory) (b : Beat α) : Beat α := (b.layered d).flatten d

/-- A layered beat flattened and taken apart again. -/
def LayeredBeat.trip (d : Directory) (b : LayeredBeat α) : LayeredBeat α := (b.flatten d).layered d

/-- The part of a character that stays at a place in a mood, with the gesture that a stage gesture
shows. -/
def Character.settledPart (c : Character) (p : Place α) (m : Mood) (g : Option StageGesture) :
    Part α where
  characterId := c.id
  name := c.name
  gender := c.gender
  movement := .stayAt p
  emotion := ⟨m, 0.7⟩
  gesture := (g.bind (·.kind?)).map fun k => ⟨k, none⟩
  facing := .center
  voice := none

namespace Beat

variable (b : Beat α) (d : Directory)

/-- The ids of the speakers of a beat, one for each line. -/
def speakers : List Spelling := b.layers.lines.map (·.characterId)

/-- The ids of the characters that make a gesture. -/
def gesturing : List Spelling :=
  (b.layers.parts.filter fun p => p.gesture.isSome).map (·.characterId)

/-- The mood that a character's first line sounds like. -/
def soundOf (id : Spelling) : Mood :=
  ((b.layers.lines.find? fun l => l.characterId == id).map fun l => (Tone.ofMood l.mood).mood).getD
    .neutral

/-- The stage gesture for the gesture of a character. -/
def stageGestureOf? (id : Spelling) : Option StageGesture :=
  (b.partOf? id).bind fun p => p.gesture.map fun g => .ofKind g.kind

/-- What a trip leaves: every line sounds like its mood, every part stays at a place in the mood of
its first line, and the parts are ordered by lines, then by gestures. -/
structure Settled (d : Directory) (b : Beat α) : Prop where
  description : b.description = "Layered beat"
  backdrop : b.layers.backdrop = some ⟨.stageFloor, none, .cut⟩
  lighting : b.layers.lighting = none
  sound : b.layers.sound = none
  lines : ∀ l ∈ b.layers.lines,
    (Tone.ofMood l.mood).mood = l.mood ∧ l.typingSpeed = usualTypingSpeed
  parts : ∀ p ∈ b.layers.parts, ∃ c q g, d.lookup? c.id = some c ∧
    p = c.settledPart q (b.soundOf c.id) g
  order : b.ids = (b.speakers ++ b.gesturing ++ b.ids).eraseDups.filter d.knows

variable {b d}

theorem Settled.nodup_ids (h : b.Settled d) : b.ids.Nodup := by
  rw [h.order]
  exact (nodup_eraseDups _).filter _

end Beat

/-! ## What a trip makes of a beat -/

omit [Measure α] in
theorem WalkEntry.movement_toList (p : Place α) (w : Option (WalkEntry α)) :
    movement p w.toList = .stayAt ((w.map (·.target)).getD p) := by
  cases w <;> rfl

theorem WalkEntry.facing_toList (w : Option (WalkEntry α)) : facing w.toList = .center := by
  cases w <;> rfl

/-- A stage gesture comes back from the gesture that a beat shows for it. -/
theorem StageGesture.bind_kind?_ofKind (g : Option StageGesture) :
    ((g.bind (·.kind?)).map fun k => ofKind k).bind (·.kind?) = g.bind (·.kind?) := by
  rcases g with _ | g
  · rfl
  · cases hk : g.kind? with
    | none => simp [hk]
    | some k => simp [hk, ofKind_of_kind? hk]

namespace Beat

variable {b : Beat α} {d : Directory}

theorem mood_linesOf_layered (id : Spelling) :
    LineEntry.mood ((b.layered d).linesOf id) = b.soundOf id := by
  rw [LineEntry.mood, LayeredBeat.linesOf, List.head?_filter, layered, List.find?_map, soundOf,
    Option.map_map]
  rfl

/-- Lines that were taken from a beat carry no gesture, so that the action layer decides. -/
theorem gestureOf?_layered (hb : b.ids.Nodup) (id : Spelling) :
    gestureOf? ((b.layered d).linesOf id) ((b.layered d).gesturesOf id) =
      (b.stageGestureOf? id).bind (·.kind?) := by
  have hnone : LineEntry.firstGesture? ((b.layered d).linesOf id) = none := by
    rw [LineEntry.firstGesture?, LayeredBeat.linesOf, List.head?_filter, layered, List.find?_map]
    cases b.layers.lines.find? _ <;> rfl
  rw [gestureOf?, hnone, gesturesOf_layered d hb, stageGestureOf?]
  rcases b.partOf? id with _ | p
  · rfl
  · rcases hg : p.gesture with _ | g <;> simp [entryOfGesture?, hg]

/-- After a trip every part stays: at its goal, or at a placement when it has none. -/
theorem part_layered (hb : b.ids.Nodup) (rank : Nat) (c : Character) :
    (b.layered d).part rank c = c.settledPart
      (((b.partOf? c.id).bind (·.goal?)).getD (placement rank)) (b.soundOf c.id)
      (b.stageGestureOf? c.id) := by
  have hgoal : ((b.partOf? c.id).bind b.walk?).map (·.target) =
      (b.partOf? c.id).bind (·.goal?) := by
    rw [Option.map_bind]
    exact Option.bind_congr fun p _ => b.target_walk? p
  rw [LayeredBeat.part, timedWalksOf_layered d hb, WalkEntry.movement_toList,
    WalkEntry.facing_toList, hgoal, mood_linesOf_layered, gestureOf?_layered hb,
    Character.settledPart]

theorem ids_filterMap_entryOfGesture? :
    (b.layers.parts.filterMap b.entryOfGesture?).map (·.characterId) = b.gesturing := by
  rw [gesturing]
  induction b.layers.parts with
  | nil => rfl
  | cons p ps ih =>
    rcases hg : p.gesture with _ | g <;> simp [entryOfGesture?, hg] <;>
      simpa [entryOfGesture?] using ih

/-- The ids of the parts whose movement leads anywhere. -/
def walking (b : Beat α) : List Spelling :=
  (b.layers.parts.filterMap b.walk?).map (·.characterId)

theorem involved_layered :
    (b.layered d).involved = (b.speakers ++ b.gesturing ++ b.walking).eraseDups := by
  rw [LayeredBeat.involved, LayeredBeat.mentioned, layered, ids_filterMap_entryOfGesture?, speakers,
    walking, List.map_map]
  rfl

theorem ids_trip :
    (b.trip d).ids = (b.speakers ++ b.gesturing ++ b.walking).eraseDups.filter d.knows := by
  rw [← involved_layered]
  exact (b.layered d).ids_parts d

theorem speakers_trip : (b.trip d).speakers = b.speakers := by
  simp [speakers, trip, LayeredBeat.flatten, layered, LineEntry.line, Line.entry, Function.comp_def]

theorem soundOf_trip (id : Spelling) : (b.trip d).soundOf id = b.soundOf id := by
  simp only [soundOf, trip, LayeredBeat.flatten, layered, List.map_map, List.find?_map,
    Option.map_map]
  simp [LineEntry.line, Line.entry, Function.comp_def]

theorem isSome_kind?_ofKind (k : GestureKind) : (StageGesture.ofKind k).kind?.isSome = true := by
  cases k <;> rfl

omit [Measure α] in
/-- A trip keeps a gesture for exactly those characters that made one. -/
theorem isSome_stageGestureOf?_iff (hb : b.ids.Nodup) (id : Spelling) :
    ((b.stageGestureOf? id).bind (·.kind?)).isSome = true ↔ id ∈ b.gesturing := by
  simp only [stageGestureOf?, gesturing, List.mem_map, List.mem_filter]
  constructor
  · intro h
    obtain ⟨k, hk⟩ := Option.isSome_iff_exists.1 h
    obtain ⟨g, hg, -⟩ := Option.bind_eq_some_iff.1 hk
    obtain ⟨p, hp, hpg⟩ := Option.bind_eq_some_iff.1 hg
    obtain ⟨g', hg', -⟩ := Option.map_eq_some_iff.1 hpg
    refine ⟨p, ⟨List.mem_of_find?_eq_some hp, by rw [hg']; rfl⟩, ?_⟩
    simpa using List.find?_some hp
  · rintro ⟨p, ⟨hp, hg⟩, rfl⟩
    obtain ⟨g, hg⟩ := Option.isSome_iff_exists.1 hg
    rw [partOf?_of_mem hb hp, Option.bind_some, hg]
    exact isSome_kind?_ofKind g.kind

theorem gesturing_trip (hb : b.ids.Nodup) :
    (b.trip d).gesturing = (b.trip d).ids.filter (· ∈ b.gesturing) := by
  have hparts : (b.trip d).layers.parts = (b.layered d).parts d := rfl
  rw [gesturing, ids, hparts, List.filter_map]
  refine congrArg _ (List.filter_congr fun p hp => ?_)
  obtain ⟨c, -, rfl⟩ := (LayeredBeat.mem_parts_iff _ d).1 hp
  rw [part_layered hb]
  refine Bool.eq_iff_iff.2 ?_
  rw [Character.settledPart, Option.isSome_map]
  exact (isSome_stageGestureOf?_iff hb c.id).trans decide_eq_true_iff.symm

theorem knows_of_mem_ids_trip {id : Spelling} (h : id ∈ (b.trip d).ids) : d.knows id = true := by
  rw [ids_trip] at h
  exact (List.mem_filter.1 h).2

/-- One trip settles a beat that gives no character two parts. -/
theorem settled_trip (hb : b.ids.Nodup) : (b.trip d).Settled d where
  description := rfl
  backdrop := rfl
  lighting := rfl
  sound := rfl
  lines := by
    intro l hl
    obtain ⟨e, -, rfl⟩ := List.mem_map.1 hl
    refine ⟨?_, rfl⟩
    rw [LineEntry.line, Tone.ofMood_mood]
  parts := by
    intro p hp
    obtain ⟨c, hc, rfl⟩ := (LayeredBeat.mem_parts_iff _ d).1 hp
    rw [part_layered hb, ← soundOf_trip (d := d)]
    exact ⟨c, _, _, ((LayeredBeat.mem_known_iff _ d).1 hc).2, rfl⟩
  order := by
    -- Unknown ids are dropped first, so that only the order of the known ones is left to compare.
    have hids : (b.trip d).ids = (b.speakers.filter d.knows ++ b.gesturing.filter d.knows ++
        b.walking.filter d.knows).eraseDups := by
      rw [ids_trip, filter_eraseDups, List.filter_append, List.filter_append]
    have hall : (b.trip d).ids.filter d.knows = (b.trip d).ids :=
      List.filter_eq_self.2 fun _ => knows_of_mem_ids_trip
    have hgest : (b.trip d).gesturing.filter d.knows =
        (b.trip d).ids.filter (· ∈ b.gesturing.filter d.knows) := by
      rw [gesturing_trip hb, List.filter_filter]
      refine List.filter_congr fun id hid => ?_
      simp [knows_of_mem_ids_trip hid]
    rw [filter_eraseDups, speakers_trip, List.filter_append, List.filter_append, hgest, hall, hids]
    exact (eraseDups_regroup _ _ _).symm

/-! ## A settled beat is a fixed point -/

theorem Settled.walking (h : b.Settled d) : b.walking = b.ids := by
  rw [Beat.walking, ids, List.map_filterMap, ← List.filterMap_eq_map]
  refine List.filterMap_congr fun p hp => ?_
  obtain ⟨c, q, g, -, rfl⟩ := h.parts p hp
  rfl

/-- In a settled beat the part of a known character is the one that a trip makes. -/
theorem Settled.part_layered (h : b.Settled d) {p : Part α} (hp : p ∈ b.layers.parts)
    (rank : Nat) :
    (d.lookup? p.characterId).map ((b.layered d).part rank) = some p := by
  have hpart := partOf?_of_mem h.nodup_ids hp
  obtain ⟨c, q, g, hc, rfl⟩ := h.parts p hp
  have hgoal : (c.settledPart q (b.soundOf c.id) g).goal? = some q := rfl
  have hgest : (b.stageGestureOf? c.id).bind (·.kind?) = g.bind (·.kind?) := by
    rw [stageGestureOf?, show b.partOf? c.id = _ from hpart, Option.bind_some,
      Character.settledPart, Option.map_map]
    exact StageGesture.bind_kind?_ofKind g
  rw [show d.lookup? (c.settledPart q (b.soundOf c.id) g).characterId = some c from hc,
    Option.map_some, Beat.part_layered h.nodup_ids, show b.partOf? c.id = _ from hpart,
    Option.bind_some, hgoal, Option.getD_some, Character.settledPart, Character.settledPart, hgest]

/-- A trip leaves a settled beat as it is. -/
theorem Settled.trip_eq (h : b.Settled d) : b.trip d = b := by
  have hlines : ((b.layered d).lines.map (·.line)) = b.layers.lines := by
    rw [layered, List.map_map]
    refine (List.map_congr_left fun l hl => ?_).trans (List.map_id _)
    obtain ⟨hm, ht⟩ := h.lines l hl
    simp [LineEntry.line, Line.entry, hm, ← ht]
  have hparts : (b.layered d).parts d = b.layers.parts := by
    have hids : (b.layered d).involved.filter d.knows = b.ids := by
      rw [involved_layered, h.walking, ← h.order]
    calc (b.layered d).parts d
        = ((b.layered d).involved.filter d.knows).filterMap fun id =>
            (d.lookup? id).map ((b.layered d).part ((b.layered d).rank id)) := by
          rw [LayeredBeat.parts_eq_filterMap]
          exact (d.filterMap_filter_knows
            (fun id => (b.layered d).part ((b.layered d).rank id)) _).symm
      _ = b.layers.parts.filterMap some := by
          rw [hids, ids, List.filterMap_map]
          exact List.filterMap_congr fun p hp => h.part_layered hp _
      _ = b.layers.parts := List.filterMap_some
  obtain ⟨hdesc, hback, hlight, hsound, -, -, -⟩ := h
  cases b with
  | mk id name description duration layers =>
    cases layers with
    | mk parts backdrop lighting sound lines =>
      simp only at hdesc hback hlight hsound hparts hlines
      subst hdesc hback hlight hsound
      rw [trip, LayeredBeat.flatten, hparts, hlines]
      rfl

end Beat

/-! ## The trip settles -/

/-- Flattening never gives a character two parts. -/
theorem LayeredBeat.nodup_ids_flatten (b : LayeredBeat α) (d : Directory) :
    (b.flatten d).ids.Nodup := b.nodup_ids_parts d

/-- Inside two layered trips lies a trip of the flattened beat. -/
theorem LayeredBeat.trip_trip (d : Directory) (b : LayeredBeat α) :
    (b.trip d).trip d = ((b.flatten d).trip d).layered d := rfl

/-- The round trip settles: a beat that gives no character two parts is the same after two trips as
after one, no flattened beat gives a character two parts, and a layered beat therefore no longer
changes after its second trip, however often the trip is made. -/
theorem trip_settles (d : Directory) :
    (∀ b : Beat α, b.ids.Nodup → (b.trip d).trip d = b.trip d) ∧
    (∀ b : LayeredBeat α, (b.flatten d).ids.Nodup) ∧
    ∀ (b : LayeredBeat α) (n : ℕ),
      (LayeredBeat.trip d)^[n + 2] b = (LayeredBeat.trip d)^[2] b := by
  have hbeat : ∀ b : Beat α, b.ids.Nodup → (b.trip d).trip d = b.trip d :=
    fun b hb => (Beat.settled_trip hb).trip_eq
  refine ⟨hbeat, fun b => b.nodup_ids_flatten d, fun b n => ?_⟩
  induction n with
  | zero => rfl
  | succ n ih =>
    have hthird : ((b.trip d).trip d).trip d = (b.trip d).trip d := by
      rw [LayeredBeat.trip_trip, LayeredBeat.trip_trip]
      exact congrArg (·.layered d) (hbeat _ (b.nodup_ids_flatten d))
    calc (LayeredBeat.trip d)^[n + 1 + 2] b
        = (b.trip d |>.trip d).trip d := by
          rw [Nat.succ_add, Function.iterate_succ_apply', ih]
          rfl
      _ = (LayeredBeat.trip d)^[2] b := hthird

/-- Two characters that leave with a wave, of whom the directory knows one. -/
theorem trip_settles_farewell :
    let anna : Character := ⟨"anna", "Anna", .female⟩
    let ben : Character := ⟨"ben", "Ben", .male⟩
    let b : Beat Float := (Template.farewell anna ben "Take care..." "See you").beat "b"
    b.ids.Nodup ∧ (b.trip [anna]).trip [anna] = b.trip [anna] := by
  intro anna ben b
  have hb : b.ids.Nodup := by decide
  exact ⟨hb, (trip_settles [anna]).1 b hb⟩

end Promptbook
