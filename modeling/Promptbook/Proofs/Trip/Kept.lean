import Promptbook.Proofs.Trip.Settled
import Promptbook.Scene.OfBeat

/-!
# What a trip keeps of a layered beat

A layered beat that is flattened and taken apart again keeps its lines, and of each known
character the place where its walks leave it and the gesture that the flattened beat shows.  The
main statement says so layer by layer; the lemmas follow one part of the flattened beat into the
layer that it is taken apart into.
-/

namespace Promptbook

variable {α : Type} [Measure α]

/-- The name that a directory has for an id. -/
def Directory.nameOf (d : Directory) (id : Spelling) : Spelling :=
  ((d.lookup? id).map (·.name)).getD unknownSpeaker

namespace LayeredBeat

/-- Where its walks leave a character: at the target of the one that starts last, or without any
at the placement of its rank among all ids mentioned. -/
def restingPlace (b : LayeredBeat α) (id : Spelling) : Place α :=
  ((b.timedWalksOf id).getLast?.map (·.target)).getD (placement (b.rank id))

end LayeredBeat

/-! ## One part -/

omit [Measure α] in
/-- The movement that some walks amount to ends where the last of them leads. -/
theorem Part.goal?_of_movement {p : Part α} {q : Place α} {ws : List (WalkEntry α)}
    (h : p.movement = WalkEntry.movement q ws) :
    p.goal? = some ((ws.getLast?.map (·.target)).getD q) := by
  rcases ws with _ | ⟨w, _ | ⟨v, ws⟩⟩
  · rw [goal?, h]
    rfl
  · rw [goal?, h]
    rfl
  · rw [goal?, h, List.getLast?_cons_cons, List.getLast?_eq_getLast_of_ne_nil (by simp)]
    rfl

/-- A part of a flattened beat is shown at its goal. -/
theorem Part.shownAt_of_movement {p : Part α} {q : Place α} {ws : List (WalkEntry α)}
    (h : p.movement = WalkEntry.movement q ws) : p.goal? = some p.shownAt := by
  rcases ws with _ | ⟨w, _ | ⟨v, ws⟩⟩ <;> rw [goal?, shownAt, h] <;> rfl

omit [Measure α] in
/-- A gesture that a flattened beat shows has a stage gesture of its own. -/
theorem kind?_ofKind_of_gestureOf? {ls : List (LineEntry α)} {gs : List (GestureEntry α)}
    {k : GestureKind} (h : gestureOf? ls gs = some k) : (StageGesture.ofKind k).kind? = some k := by
  rw [gestureOf?] at h
  cases hl : LineEntry.firstGesture? ls with
  | none =>
    rw [hl] at h
    obtain ⟨g, -, hg⟩ := Option.bind_eq_some_iff.1 h
    rw [StageGesture.ofKind_of_kind? hg, hg]
  | some g =>
    rw [hl] at h
    cases g <;> cases h <;> rfl

namespace LayeredBeat

variable (b : LayeredBeat α) (d : Directory)

/-- The goal of a part is the resting place of its character. -/
theorem goal?_of_mem_parts {p : Part α} (hp : p ∈ b.parts d) :
    p.goal? = some (b.restingPlace p.characterId) := by
  obtain ⟨c, -, rfl⟩ := (b.mem_parts_iff d).1 hp
  exact Part.goal?_of_movement rfl

theorem kind?_ofKind_of_mem_parts {p : Part α} (hp : p ∈ b.parts d) {g : Gesture}
    (hg : p.gesture = some g) : (StageGesture.ofKind g.kind).kind? = some g.kind := by
  obtain ⟨c, -, rfl⟩ := (b.mem_parts_iff d).1 hp
  obtain ⟨k, hk, rfl⟩ := Option.map_eq_some_iff.1 hg
  exact kind?_ofKind_of_gestureOf? hk

/-! ## The layers -/

/-- Lines are kept but for the name, which the directory gives, and the gesture. -/
theorem lines_trip : (b.trip d).lines = b.lines.map fun l =>
    { l with characterName := d.nameOf l.characterId, gesture := none } := by
  simp [trip, flatten, Beat.layered, LineEntry.line, Line.entry, Directory.nameOf, List.map_map,
    Function.comp_def]

/-- Every part has a walk to the resting place of its character. -/
theorem exists_walk?_of_mem_parts {p : Part α} (hp : p ∈ b.parts d) :
    ∃ w, (b.flatten d).walk? p = some w ∧ w.target = b.restingPlace p.characterId := by
  have htarget := (b.flatten d).target_walk? p
  rw [b.goal?_of_mem_parts d hp] at htarget
  exact Option.map_eq_some_iff.1 htarget

theorem ids_walks_trip : (b.trip d).walks.map (·.characterId) = b.involved.filter d.knows := by
  rw [← b.ids_parts d]
  change ((b.parts d).filterMap (b.flatten d).walk?).map _ = _
  rw [List.map_filterMap, ← List.filterMap_eq_map]
  refine List.filterMap_congr fun p hp => ?_
  obtain ⟨w, hw, -⟩ := b.exists_walk?_of_mem_parts d hp
  simp [hw, (b.flatten d).characterId_of_walk? hw]

theorem target_of_mem_walks_trip {w : WalkEntry α} (hw : w ∈ (b.trip d).walks) :
    w.target = b.restingPlace w.characterId := by
  obtain ⟨p, hp, hpw⟩ := List.mem_filterMap.1 hw
  obtain ⟨v, hv, htarget⟩ := b.exists_walk?_of_mem_parts d hp
  rw [hpw] at hv
  cases hv
  rw [htarget, (b.flatten d).characterId_of_walk? hpw]

/-- The action layer of a character holds the stage gesture for its gesture, if there is one. -/
theorem kinds_gesturesOf_trip (id : Spelling) :
    ((b.trip d).gesturesOf id).map (·.gesture.kind?) =
      (((b.flatten d).partOf? id).bind (·.gesture)).toList.map fun g => some g.kind := by
  rw [trip, Beat.gesturesOf_layered d (b.nodup_ids_flatten d)]
  cases hp : (b.flatten d).partOf? id with
  | none => rfl
  | some p =>
    cases hg : p.gesture with
    | none => simp [Beat.entryOfGesture?, hg]
    | some g =>
      have hmem : p ∈ b.parts d := List.mem_of_find?_eq_some hp
      simp [Beat.entryOfGesture?, hg, b.kind?_ofKind_of_mem_parts d hmem hg]

end LayeredBeat

/-! ## The flattened beat -/

/-- The part with which a character stands where it was shown. -/
def Part.standing (p : Part α) : Part α :=
  { p with movement := .stayAt p.shownAt, facing := .center }

namespace LayeredBeat

variable (b : LayeredBeat α) (d : Directory)

theorem soundOf_flatten (id : Spelling) :
    (b.flatten d).soundOf id = LineEntry.mood (b.linesOf id) := by
  rw [LineEntry.mood, linesOf, List.head?_filter, Beat.soundOf, flatten, List.find?_map,
    Option.map_map]
  refine congrArg (Option.getD · Mood.neutral) (Option.map_congr fun l _ => ?_)
  simp [LineEntry.line]

/-- The ids of a flattened beat are the known ids that it mentions. -/
theorem mem_ids_flatten_iff {id : Spelling} :
    id ∈ (b.flatten d).ids ↔ id ∈ b.mentioned ∧ d.knows id = true := by
  rw [show (b.flatten d).ids = _ from b.ids_parts d, List.mem_filter, mem_involved]

theorem walking_flatten : (b.flatten d).walking = (b.flatten d).ids :=
  (b.ids_walks_trip d).trans (b.ids_parts d).symm

/-- A further trip loses nobody and adds nobody. -/
theorem mem_ids_trip_flatten_iff {id : Spelling} :
    id ∈ ((b.flatten d).trip d).ids ↔ id ∈ (b.flatten d).ids := by
  rw [Beat.ids_trip, List.mem_filter, List.mem_eraseDups, walking_flatten]
  refine ⟨fun ⟨hid, hknows⟩ => ?_, fun hid => ?_⟩
  · rcases List.mem_append.1 hid with hid | hid
    · rcases List.mem_append.1 hid with hid | hid
      · refine (b.mem_ids_flatten_iff d).2 ⟨?_, hknows⟩
        have hlines : (b.flatten d).speakers = b.lines.map (·.characterId) := by
          simp [Beat.speakers, flatten, LineEntry.line, Function.comp_def]
        rw [hlines] at hid
        exact List.mem_append_left _ (List.mem_append_left _ hid)
      · obtain ⟨p, hp, rfl⟩ := List.mem_map.1 hid
        exact List.mem_map_of_mem (List.mem_filter.1 hp).1
    · exact hid
  · exact ⟨List.mem_append_right _ hid, ((b.mem_ids_flatten_iff d).1 hid).2⟩

/-- A further trip makes a character stand where it was shown and changes nothing else of it. -/
theorem standing_of_mem_parts_trip {p q : Part α} (hp : p ∈ (b.flatten d).layers.parts)
    (hq : q ∈ ((b.flatten d).trip d).layers.parts) (h : q.characterId = p.characterId) :
    q = p.standing := by
  have hnodup := b.nodup_ids_flatten d
  have hpart := Beat.partOf?_of_mem hnodup hp
  obtain ⟨c, hc, rfl⟩ := (b.mem_parts_iff d).1 hp
  obtain ⟨c', hc', rfl⟩ := (mem_parts_iff _ d).1 hq
  obtain rfl : c' = c := by
    have hlookup := ((mem_known_iff _ d).1 hc').2
    rw [show c'.id = c.id from h, ((b.mem_known_iff d).1 hc).2] at hlookup
    exact (Option.some.inj hlookup).symm
  have hgoal : (b.part (b.rank c'.id) c').goal? = some (b.part (b.rank c'.id) c').shownAt :=
    Part.shownAt_of_movement rfl
  have hstage : (b.flatten d).stageGestureOf? c'.id =
      (gestureOf? (b.linesOf c'.id) (b.gesturesOf c'.id)).map StageGesture.ofKind := by
    rw [Beat.stageGestureOf?, show (b.flatten d).partOf? c'.id = _ from hpart, Option.bind_some,
      part, Option.map_map]
    rfl
  have hgest : ((b.flatten d).stageGestureOf? c'.id).bind (·.kind?) =
      gestureOf? (b.linesOf c'.id) (b.gesturesOf c'.id) := by
    rw [hstage]
    cases hk : gestureOf? (b.linesOf c'.id) (b.gesturesOf c'.id) with
    | none => rfl
    | some k => exact kind?_ofKind_of_gestureOf? hk
  rw [Beat.part_layered hnodup, show (b.flatten d).partOf? c'.id = _ from hpart, Option.bind_some,
    hgoal, Option.getD_some, soundOf_flatten, Character.settledPart, hgest]
  rfl

/-- A further trip keeps the parts but for their order, each standing where it was shown. -/
theorem parts_trip_perm :
    ((b.flatten d).trip d).layers.parts.Perm ((b.flatten d).layers.parts.map Part.standing) := by
  have hids : ∀ {ps : List (Part α)}, (ps.map (·.characterId)).Nodup → ps.Nodup :=
    List.Nodup.of_map _
  refine (List.perm_ext_iff_of_nodup ?_ ?_).2 fun q => ?_
  · exact hids (((b.flatten d).layered d).nodup_ids_parts d)
  · refine hids ?_
    rw [List.map_map]
    exact b.nodup_ids_parts d
  · rw [List.mem_map]
    constructor
    · intro hq
      have hid := (b.mem_ids_trip_flatten_iff d).1 (List.mem_map_of_mem hq)
      obtain ⟨p, hp, hpq⟩ := List.mem_map.1 hid
      exact ⟨p, hp, (b.standing_of_mem_parts_trip d hp hq hpq.symm).symm⟩
    · rintro ⟨p, hp, rfl⟩
      have hid := (b.mem_ids_trip_flatten_iff d).2 (List.mem_map_of_mem hp)
      obtain ⟨q, hq, hqp⟩ := List.mem_map.1 hid
      rw [← b.standing_of_mem_parts_trip d hp hq hqp]
      exact hq

theorem lines_trip_flatten : ((b.flatten d).trip d).layers.lines = (b.flatten d).layers.lines := by
  rw [Beat.trip, show (b.flatten d).layered d = b.trip d from rfl, flatten, lines_trip,
    List.map_map, flatten]
  rfl

end LayeredBeat

/-- What a trip keeps of a layered beat: its id, its name and how long it lasts; its lines, with
the names that the directory has; one walk for each known character that it mentions, to the place
where its walks left the character; and of each known character the gesture that the flattened
beat shows, if it shows one.  In particular a further trip only reorders the parts of the flattened
beat and lets each stand where it was shown, with the same mood and gesture. -/
theorem trip_keeps (b : LayeredBeat α) (d : Directory) :
    ((b.trip d).id = b.id ∧ (b.trip d).name = b.name ∧
      (b.trip d).duration = some b.effectiveDuration) ∧
    ((b.trip d).lines = b.lines.map fun l =>
      { l with characterName := d.nameOf l.characterId, gesture := none }) ∧
    ((b.trip d).walks.map (·.characterId) = b.involved.filter d.knows ∧
      ((b.trip d).walks.map (·.characterId)).Nodup ∧
      ∀ w ∈ (b.trip d).walks, w.target = b.restingPlace w.characterId) ∧
    (∀ id, ((b.trip d).gesturesOf id).map (·.gesture.kind?) =
      (((b.flatten d).partOf? id).bind (·.gesture)).toList.map fun g => some g.kind) ∧
    (((b.flatten d).trip d).layers.lines = (b.flatten d).layers.lines ∧
      ((b.flatten d).trip d).layers.parts.Perm
        ((b.flatten d).layers.parts.map Part.standing)) := by
  refine ⟨⟨rfl, rfl, rfl⟩, b.lines_trip d, ⟨b.ids_walks_trip d, ?_, ?_⟩, ?_, ?_⟩
  · rw [b.ids_walks_trip d]
    exact b.nodup_involved.filter _
  · exact fun w hw => b.target_of_mem_walks_trip d hw
  · exact b.kinds_gesturesOf_trip d
  · exact ⟨b.lines_trip_flatten d, b.parts_trip_perm d⟩

/-- Anna's walks are not listed in the order of their starts, and between them walks a ghost whom the
directory does not know, although it speaks first; Ben stands where his rank behind the ghost puts
him. -/
theorem trip_keeps_haunting :
    let walk (id : Spelling) (x start finish : Float) : WalkEntry Float :=
      ⟨"w", id, none, ⟨x, 0.5⟩, start, finish, true, none⟩
    let line (id characterId name text : Spelling) (start : Float) (gesture : Option LineGesture) :
        LineEntry Float := ⟨id, characterId, name, text, .calm, start, gesture⟩
    let b : LayeredBeat Float := ⟨"b", "Haunting", none, .stageFloor,
      [line "l1" "ghost" "Ghost" "Boo!" 0.0 none, line "l2" "ben" "B." "Hush!" 1.0 none],
      [⟨"g", "anna", .bow, 0.0, none⟩],
      [walk "anna" 0.8 2.0 3.0, walk "ghost" 0.5 3.0 4.0, walk "anna" 0.2 0.0 1.0]⟩
    let d : Directory :=
      [⟨"ben", "Ben", .male⟩, ⟨"anna", "Anna", .female⟩, ⟨"ben", "Bernd", .male⟩]
    (b.trip d).lines =
        [line "l1" "ghost" "Unknown" "Boo!" 0.0 none, line "l2" "ben" "Ben" "Hush!" 1.0 none] ∧
      ((b.trip d).walks.map fun w => (w.characterId, w.target)) =
        [(("ben" : Spelling), (⟨0.5, 0.5⟩ : Place Float)), ("anna", ⟨0.8, 0.5⟩)] ∧
      ((b.trip d).gesturesOf "anna").map (·.gesture.kind?) = [some .bow] := by
  intro walk line b d
  have hsorted : b.timedWalks =
      [walk "anna" 0.2 0.0 1.0, walk "anna" 0.8 2.0 3.0, walk "ghost" 0.5 3.0 4.0] := by
    have hlater : ¬ (3.0 : Float) < 2.0 := by decide
    have hfirst : (0.0 : Float) < 2.0 := by decide
    simp [LayeredBeat.timedWalks, List.mergeSort, b, walk, hlater, hfirst]
  have hanna : b.restingPlace "anna" = ⟨0.8, 0.5⟩ := by
    rw [LayeredBeat.restingPlace, LayeredBeat.timedWalksOf, hsorted]
    rfl
  have hben : b.restingPlace "ben" = ⟨0.5, 0.5⟩ := by
    rw [LayeredBeat.restingPlace, LayeredBeat.timedWalksOf, hsorted]
    decide
  obtain ⟨-, hlines, ⟨hids, -, htargets⟩, hgestures, -⟩ := trip_keeps b d
  refine ⟨hlines, ?_, ?_⟩
  · have hplaces : ((b.trip d).walks.map fun w => (w.characterId, w.target)) =
        ((b.trip d).walks.map (·.characterId)).map fun id => (id, b.restingPlace id) := by
      rw [List.map_map]
      exact List.map_congr_left fun w hw => congrArg (Prod.mk w.characterId) (htargets w hw)
    have hknown : b.involved.filter d.knows = [("ben" : Spelling), "anna"] := by decide
    rw [hplaces, hids, hknown, List.map_cons, List.map_singleton, hben, hanna]
  · rw [hgestures]
    decide

end Promptbook
