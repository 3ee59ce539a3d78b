import Promptbook.Layered.OfBeat
import Promptbook.Proofs.Trip.Mention

/-!
# What a character's part becomes in the layers

When no two parts of a beat belong to one character, taking the beat apart gives each character at
most one walk and at most one gesture.  Flattening the layers again then lets the character stay:
where its walk leads, or at a placement when it has none.
-/

namespace Promptbook

/-- Where no two owners share a key, the entries under a key are what its one owner yields. -/
theorem filter_filterMap_of_nodup {π ε ι : Type} [DecidableEq ι] {ps : List π} {key : π → ι}
    (h : (ps.map key).Nodup) {f : π → Option ε} {owner : ε → ι}
    (hf : ∀ {p e}, f p = some e → owner e = key p) (i : ι) :
    ((ps.filterMap f).filter fun e => owner e == i) =
      ((ps.find? fun p => key p == i).bind f).toList := by
  induction ps with
  | nil => rfl
  | cons p ps ih =>
    rw [List.map_cons, List.nodup_cons] at h
    have ih := ih h.2
    by_cases hp : key p = i
    · have hothers : (ps.find? fun q => key q == i) = none := by
        rw [List.find?_eq_none]
        intro q hq
        have hne : key q ≠ i := fun e => h.1 (hp ▸ e ▸ List.mem_map_of_mem hq)
        simpa using hne
      rw [hothers] at ih
      cases hfp : f p with
      | none => simpa [hp, hfp] using ih
      | some e => simpa [hp, hfp, List.filter_cons, hf hfp] using ih
    · cases hfp : f p with
      | none => simpa [hp, hfp] using ih
      | some e => simpa [hp, hfp, List.filter_cons, hf hfp] using ih

variable {α : Type}

/-- The ids of the parts of a beat. -/
def Beat.ids (b : Beat α) : List Spelling := b.layers.parts.map (·.characterId)

/-- The part of a character. -/
def Beat.partOf? (b : Beat α) (id : Spelling) : Option (Part α) :=
  b.layers.parts.find? fun p => p.characterId == id

theorem Beat.partOf?_of_mem {b : Beat α} (h : b.ids.Nodup) {p : Part α} (hp : p ∈ b.layers.parts) :
    b.partOf? p.characterId = some p := find?_of_nodup h hp

/-- The place that a part is brought to: the end of its movement that counts for its kind, and
nothing when that end is unknown. -/
def Part.goal? (p : Part α) : Option (Place α) :=
  match p.movement.kind with
  | .stay => p.movement.origin
  | .enter => p.movement.target
  | .exit | .move | .approach | .retreat => p.movement.target.or p.movement.origin

theorem Movement.target_leg? (m : Movement α) : m.leg?.map (·.2) = m.target.or m.origin := by
  cases ht : m.target <;> cases ho : m.origin <;> simp [leg?, ht, ho]

/-- Where a part leads from and to.  Who stays or enters just appears. -/
def Part.leg? (p : Part α) : Option (Option (Place α) × Place α) :=
  match p.movement.kind with
  | .stay => p.movement.origin.map fun place => (none, place)
  | .enter => p.movement.target.map fun place => (none, place)
  | .exit | .move | .approach | .retreat => p.movement.leg?

theorem Part.target_leg? (p : Part α) : p.leg?.map (·.2) = p.goal? := by
  rw [leg?, goal?]
  cases p.movement.kind with
  | stay | enter => exact (Option.map_map ..).trans (congrFun Option.map_id_fun _)
  | exit | move | approach | retreat => exact p.movement.target_leg?

variable [Measure α]

/-- When the walk of a movement starts and ends in a beat that lasts some seconds. -/
def MovementKind.times (t : α) : MovementKind → α × α
  | stay => (0.0, 0.0)
  | move | approach | retreat => (0.0, t / 2.0)
  | enter => (0.0, 1.0)
  | exit => (t * 0.7, t * 0.7 + 1.0)

namespace Beat

variable (b : Beat α) (d : Directory)

/-- A walk goes the way of its part, in the time that the kind of movement has in the beat. -/
theorem walk?_eq (p : Part α) : b.walk? p = p.leg?.map fun leg =>
    ⟨b.id ++ ":" ++ p.characterId ++ ":movement", p.characterId, leg.1, leg.2,
      (p.movement.kind.times b.duration).1, (p.movement.kind.times b.duration).2,
      p.movement.kind ≠ .stay, none⟩ := by
  rw [walk?, Part.leg?]
  cases p.movement.kind with
  | stay | enter =>
    simp only [Option.map_map]
    rfl
  | exit | move | approach | retreat => rfl

/-- The walk of a part leads to the goal of the part. -/
theorem target_walk? (p : Part α) : (b.walk? p).map (·.target) = p.goal? := by
  rw [walk?_eq, Option.map_map, ← p.target_leg?]
  rfl

variable {b} in
theorem leg?_of_walk? {p : Part α} {w : WalkEntry α} (h : b.walk? p = some w) :
    p.leg? = some (w.origin, w.target) := by
  rw [walk?_eq] at h
  obtain ⟨leg, hleg, rfl⟩ := Option.map_eq_some_iff.1 h
  exact hleg

variable {b} in
theorem times_of_walk? {p : Part α} {w : WalkEntry α} (h : b.walk? p = some w) :
    (w.start, w.finish) = p.movement.kind.times b.duration := by
  rw [walk?_eq] at h
  obtain ⟨leg, -, rfl⟩ := Option.map_eq_some_iff.1 h
  rfl

theorem characterId_of_walk? {p : Part α} {w : WalkEntry α} (h : b.walk? p = some w) :
    w.characterId = p.characterId := by
  rw [walk?_eq] at h
  obtain ⟨leg, -, rfl⟩ := Option.map_eq_some_iff.1 h
  rfl

theorem characterId_of_entryOfGesture? {p : Part α} {g : GestureEntry α}
    (h : b.entryOfGesture? p = some g) : g.characterId = p.characterId := by
  obtain ⟨_, _, rfl⟩ := Option.map_eq_some_iff.1 h
  rfl

variable {b} (hb : b.ids.Nodup) (id : Spelling)

include hb

/-- A character has the walk of its part and no other. -/
theorem walksOf_layered :
    (b.layered d).walksOf id = ((b.partOf? id).bind b.walk?).toList :=
  filter_filterMap_of_nodup hb b.characterId_of_walk? id

theorem gesturesOf_layered :
    (b.layered d).gesturesOf id = ((b.partOf? id).bind b.entryOfGesture?).toList :=
  filter_filterMap_of_nodup hb b.characterId_of_entryOfGesture? id

/-- A single walk needs no sorting. -/
theorem timedWalksOf_layered :
    (b.layered d).timedWalksOf id = ((b.partOf? id).bind b.walk?).toList := by
  have hperm := (b.layered d).timedWalksOf_perm id
  rw [walksOf_layered d hb] at hperm
  cases hwalk : (b.partOf? id).bind b.walk? with
  | none =>
    rw [hwalk] at hperm
    exact hperm.eq_nil
  | some w =>
    rw [hwalk] at hperm
    exact List.perm_singleton.1 hperm

end Beat

end Promptbook
