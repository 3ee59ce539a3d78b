import Promptbook.Layered.Record
import Promptbook.Proofs.Edit.Packed
import Promptbook.Proofs.Record.Atoms

/-!
# Edits and the schema

Edits build their results without asking the schema again.  They need not: every time that an edit
computes is a sum of times that are not negative, and an end is a start with something added that
is not negative, whatever double the start may be.
-/

namespace Promptbook

open Record

/-! ## What the schema asks for -/

/-- The constraints on a walk. -/
structure WalkEntry.Valid (w : WalkEntry Float) : Prop where
  origin : ∀ p ∈ w.origin, p.InBounds
  target : w.target.InBounds
  start : 0.0 ≤ w.start
  finish : 0.0 ≤ w.finish
  ends : w.start ≤ w.finish

/-- The constraints on a layered beat. -/
structure LayeredBeat.Valid (b : LayeredBeat Float) : Prop where
  duration : ∀ t ∈ b.duration, 0.0 < t
  lines : ∀ l ∈ b.lines, 0.0 ≤ l.start
  gestures : ∀ g ∈ b.gestures, 0.0 ≤ g.start
  walks : ∀ w ∈ b.walks, w.Valid

instance (p : Place Float) : Decidable p.InBounds := inferInstanceAs (Decidable (_ ∧ _))

instance (w : WalkEntry Float) : Decidable w.Valid :=
  decidable_of_iff ((∀ p ∈ w.origin, p.InBounds) ∧ w.target.InBounds ∧ 0.0 ≤ w.start ∧
      0.0 ≤ w.finish ∧ w.start ≤ w.finish)
    ⟨fun ⟨horigin, htarget, hstart, hfinish, hends⟩ => ⟨horigin, htarget, hstart, hfinish, hends⟩,
      fun h => ⟨h.origin, h.target, h.start, h.finish, h.ends⟩⟩

instance (b : LayeredBeat Float) : Decidable b.Valid :=
  decidable_of_iff ((∀ t ∈ b.duration, 0.0 < t) ∧ (∀ l ∈ b.lines, 0.0 ≤ l.start) ∧
      (∀ g ∈ b.gestures, 0.0 ≤ g.start) ∧ ∀ w ∈ b.walks, w.Valid)
    ⟨fun ⟨hduration, hlines, hgestures, hwalks⟩ => ⟨hduration, hlines, hgestures, hwalks⟩,
      fun h => ⟨h.duration, h.lines, h.gestures, h.walks⟩⟩

namespace Record.Range

variable {x : Float}

theorem time_fault?_eq_none_iff : Range.time.fault? x = none ↔ 0.0 ≤ x := by
  simp [time, fault?]

theorem duration_fault?_eq_none_iff : Range.duration.fault? x = none ↔ 0.0 < x := by
  simp [duration, fault?]

theorem between_fault?_eq_none_iff {least most : Float} :
    (Range.between least most).fault? x = none ↔ least ≤ x ∧ x ≤ most := by
  rw [fault?]
  split_ifs <;> simp [*]

end Record.Range

theorem Place.admits_canvasShape_iff {p : Place Float} :
    Place.canvasShape.Admits p ↔ p.InBounds := by
  simp [canvasShape, fields, Shape.Admits, Range.across, Range.share,
    Range.between_fault?_eq_none_iff, InBounds]

/-- Between times that are numbers the law of a walk is the order. -/
theorem WalkEntry.law_eq_none_iff {w : WalkEntry Float} (hstart : 0.0 ≤ w.start)
    (hfinish : 0.0 ≤ w.finish) : w.law = none ↔ w.start ≤ w.finish := by
  rw [← Double.not_lt (Double.isNaN_of_le hfinish).2 (Double.isNaN_of_le hstart).2, law]
  split_ifs <;> simp [*]

theorem WalkEntry.admits_shape_iff {w : WalkEntry Float} :
    WalkEntry.shape.Admits w ↔ w.Valid := by
  have hfields : WalkEntry.shape.Admits w ↔ ((∀ p ∈ w.origin, p.InBounds) ∧ w.target.InBounds ∧
      0.0 ≤ w.start ∧ 0.0 ≤ w.finish) ∧ w.law = none := by
    simp [shape, Shape.Admits, Range.time_fault?_eq_none_iff, Place.admits_canvasShape_iff]
  rw [hfields]
  constructor
  · rintro ⟨⟨horigin, htarget, hstart, hfinish⟩, hlaw⟩
    exact ⟨horigin, htarget, hstart, hfinish, (law_eq_none_iff hstart hfinish).1 hlaw⟩
  · intro h
    exact ⟨⟨h.origin, h.target, h.start, h.finish⟩, (law_eq_none_iff h.start h.finish).2 h.ends⟩

theorem LineEntry.admits_shape_iff {l : LineEntry Float} :
    LineEntry.shape.Admits l ↔ 0.0 ≤ l.start := by
  simp [shape, Shape.Admits, Range.time_fault?_eq_none_iff]

theorem GestureEntry.admits_shape_iff {g : GestureEntry Float} :
    GestureEntry.shape.Admits g ↔ 0.0 ≤ g.start := by
  simp [shape, Shape.Admits, Range.time_fault?_eq_none_iff]

/-- A layered beat is valid where the schema admits it. -/
theorem LayeredBeat.admits_shape_iff {b : LayeredBeat Float} :
    LayeredBeat.shape.Admits b ↔ b.Valid := by
  have hfields : LayeredBeat.shape.Admits b ↔ (∀ t ∈ b.duration, 0.0 < t) ∧
      (∀ l ∈ b.lines, 0.0 ≤ l.start) ∧ (∀ g ∈ b.gestures, 0.0 ≤ g.start) ∧
      ∀ w ∈ b.walks, w.Valid := by
    simp [shape, locationShape, linesShape, gesturesShape, walksShape, Shape.wrapped, Shape.Admits,
      Range.duration_fault?_eq_none_iff, LineEntry.admits_shape_iff,
      GestureEntry.admits_shape_iff, WalkEntry.admits_shape_iff]
  rw [hfields]
  exact ⟨fun ⟨hduration, hlines, hgestures, hwalks⟩ => ⟨hduration, hlines, hgestures, hwalks⟩,
    fun h => ⟨h.duration, h.lines, h.gestures, h.walks⟩⟩

/-! ## What edits compute -/

namespace Place

variable {p q : Place Float}

theorem isFinite_of_inBounds (h : p.InBounds) : p.x.isFinite = true ∧ p.y.isFinite = true :=
  ⟨Double.isFinite_of_between (by decide) (by decide) h.1.1 h.1.2,
    Double.isFinite_of_between (by decide) (by decide) h.2.1 h.2.2⟩

/-- To walk from one place to another takes time. -/
theorem walkTime_nonneg (hp : p.InBounds) (hq : q.InBounds) : 0.0 ≤ p.walkTime q := by
  obtain ⟨hpx, hpy⟩ := isFinite_of_inBounds hp
  obtain ⟨hqx, hqy⟩ := isFinite_of_inBounds hq
  have hdistance : 0.0 ≤ p.distance q :=
    Double.hypot_nonneg (Double.isNaN_sub hqx hpx) (Double.isNaN_sub hqy hpy)
  exact Double.sup_nonneg (Double.mul_nonneg hdistance (by decide) (by decide)) (by decide)

end Place

namespace LayeredBeat

variable {b : LayeredBeat Float}

/-- The estimate is never below the usual duration. -/
theorem estimate_pos (b : LayeredBeat Float) : 0.0 < b.estimate :=
  Double.largest_pos (by decide) _

/-- Where a character stands in a valid beat is in bounds. -/
theorem Valid.inBounds_lastPlace? (h : b.Valid) {c : Spelling} {p : Place Float}
    (hp : b.lastPlace? c = some p) : p.InBounds := by
  obtain ⟨w, hw, rfl⟩ := Option.map_eq_some_iff.1 hp
  exact (h.walks w (List.mem_of_mem_filter (WalkEntry.mem_of_latest? hw))).target

end LayeredBeat

/-- The walk that becomes of a request between places in bounds is valid. -/
theorem WalkEntry.valid_departing {characterId : Spelling} {target : Place Float} {start : Float}
    {origin : Option (Place Float)} {id : Option Spelling} {place : Option (Place Float)}
    (htarget : target.InBounds) (horigin : ∀ p ∈ origin, p.InBounds)
    (hplace : ∀ p ∈ place, p.InBounds)
    (htimely : (asked characterId target start origin id).Timely) :
    ((asked characterId target start origin id).departing place).Valid := by
  have hstart : 0.0 ≤ start := htimely.1
  rw [departing]
  cases hfrom : origin.or place with
  | none =>
    rw [show (asked characterId target start origin id).origin.or place = none from hfrom]
    exact ⟨horigin, htarget, hstart, htimely.2, Double.le_add hstart (by decide)⟩
  | some p =>
    have hp : p.InBounds := by
      rcases Option.or_eq_some_iff.1 hfrom with h | ⟨-, h⟩
      · exact horigin p h
      · exact hplace p h
    have hwalk := Place.walkTime_nonneg hp htarget
    rw [show (asked characterId target start origin id).origin.or place = some p from hfrom]
    refine ⟨fun q hq => ?_, htarget, hstart, Double.add_nonneg hstart hwalk,
      Double.le_add hstart hwalk⟩
    obtain rfl := Option.some.inj hq
    exact hp

/-! ## What edits leave -/

namespace Edit

/-- Whether the places that an edit is given are in bounds, as those of its type are. -/
def InBounds : Edit Float → Prop
  | addWalk _ target _ origin _ => target.InBounds ∧ ∀ p ∈ origin, p.InBounds
  | _ => True

instance : (e : Edit Float) → Decidable e.InBounds
  | addWalk _ target _ origin _ =>
    inferInstanceAs (Decidable (target.InBounds ∧ ∀ p ∈ origin, p.InBounds))
  | appendLine .. | removeLine _ | addGesture .. | setLocation _ | fixDuration => .isTrue trivial

variable {b c : LayeredBeat Float} {e : Edit Float}

/-- An edit of a valid beat is refused or leaves a valid beat. -/
theorem valid_of_apply (hb : b.Valid) (he : e.InBounds) (hc : e.apply b = .ok c) : c.Valid := by
  cases e with
  | appendLine speaker text tone gesture id =>
    cases hc
    refine { hb with lines := List.forall_mem_append.2 ⟨hb.lines, List.forall_mem_singleton.2 ?_⟩ }
    exact LineEntry.le_foldl_playback (by decide) _
  | removeLine id =>
    cases hc
    exact { hb with lines := (b.packed_removeLine id).start_nonneg }
  | addWalk characterId target start origin id =>
    obtain ⟨htimely, rfl⟩ := b.addWalk_eq_ok_iff.1 hc
    refine { hb with walks := List.forall_mem_append.2 ⟨hb.walks, List.forall_mem_singleton.2 ?_⟩ }
    exact WalkEntry.valid_departing he.1 he.2 (fun p => hb.inBounds_lastPlace?) htimely
  | addGesture characterId gesture start lineId =>
    obtain ⟨hstart, rfl⟩ := b.addGesture_eq_ok_iff.1 hc
    exact { hb with
      gestures := List.forall_mem_append.2 ⟨hb.gestures, List.forall_mem_singleton.2 hstart⟩ }
  | setLocation location =>
    cases hc
    exact { hb with }
  | fixDuration =>
    cases hc
    refine { hb with duration := fun t ht => ?_ }
    obtain rfl := Option.some.inj ht
    exact b.estimate_pos

theorem valid_attempt (hb : b.Valid) (he : e.InBounds) : (attempt b e).Valid := by
  obtain ⟨ps, -, h⟩ | ⟨c, hc, h⟩ := attempt_cases b e
  · rwa [h]
  · rw [h]
    exact valid_of_apply hb he hc

theorem valid_run (hb : b.Valid) {es : List (Edit Float)} (hes : ∀ e ∈ es, e.InBounds) :
    (run b es).Valid := by
  induction es generalizing b with
  | nil => exact hb
  | cons e es ih =>
    rw [List.forall_mem_cons] at hes
    exact ih (valid_attempt hb hes.1) hes.2

end Edit

/-- Editing never leaves the schema.  From a beat that the schema admits, through edits with places
in bounds and any times, each further edit is refused and leaves the beat as it is, or leaves one
that the schema admits. -/
theorem edits_stay_valid (b : LayeredBeat Float) (hb : LayeredBeat.shape.Admits b)
    (es : List (Edit Float)) (hes : ∀ e ∈ es, e.InBounds) (e : Edit Float) (he : e.InBounds) :
    (∃ ps, e.apply (Edit.run b es) = .error ps ∧ Edit.attempt (Edit.run b es) e = Edit.run b es) ∨
    ∃ c, e.apply (Edit.run b es) = .ok c ∧ Edit.attempt (Edit.run b es) e = c ∧
      LayeredBeat.shape.Admits c ∧ c.Valid := by
  have hrun := Edit.valid_run (LayeredBeat.admits_shape_iff.1 hb) hes
  obtain h | ⟨c, hc, hattempt⟩ := Edit.attempt_cases (Edit.run b es) e
  · exact .inl h
  · have hvalid := Edit.valid_of_apply hrun he hc
    exact .inr ⟨c, hc, hattempt, LayeredBeat.admits_shape_iff.2 hvalid, hvalid⟩

/-- A second walk is to start at the end of all times. -/
theorem edits_stay_valid_endless :
    let b : LayeredBeat Float := ⟨"b", "Endless", some 4.0, .stageFloor, [], [], []⟩
    let es : List (Edit Float) := [.addWalk "anna" ⟨0.2, 0.5⟩ 1.0 none none, .removeLine "l1"]
    let e : Edit Float := .addWalk "anna" ⟨1.1, 1.0⟩ Double.infinity none none
    LayeredBeat.shape.Admits b ∧ (∀ e ∈ es, e.InBounds) ∧ e.InBounds ∧
      ((∃ ps, e.apply (Edit.run b es) = .error ps ∧
          Edit.attempt (Edit.run b es) e = Edit.run b es) ∨
        ∃ c, e.apply (Edit.run b es) = .ok c ∧ Edit.attempt (Edit.run b es) e = c ∧
          LayeredBeat.shape.Admits c ∧ c.Valid) := by
  intro b es e
  have hb : LayeredBeat.shape.Admits b := by
    refine LayeredBeat.admits_shape_iff.2 ⟨fun t ht => ?_, by simp [b], by simp [b], by simp [b]⟩
    obtain rfl := Option.some.inj ht
    decide
  have hnone : ∀ p ∈ (none : Option (Place Float)), p.InBounds := fun p hp => nomatch hp
  have hes : ∀ e ∈ es, e.InBounds := by
    rw [List.forall_mem_cons, List.forall_mem_singleton]
    exact ⟨⟨⟨by decide, by decide⟩, hnone⟩, trivial⟩
  have he : e.InBounds := ⟨⟨by decide, by decide⟩, hnone⟩
  exact ⟨hb, hes, he, edits_stay_valid b hb es hes e he⟩

end Promptbook
