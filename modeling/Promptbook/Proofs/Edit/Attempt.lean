import Promptbook.Layered.Edit
import Promptbook.Layered.Flatten

/-!
# What an edit does

Each edit touches one layer.  The statements here say once, layer by layer, what an edit leaves
behind and when it is refused, so that an invariant of a layer need not look into the edits that
pass the layer by.
-/

namespace Promptbook

open Record

variable {α : Type} [Measure α]

namespace WalkEntry

/-- The entry that an edit asks for, by which the character appears at the target. -/
def asked (characterId : Spelling) (target : Place α) (start : α) (origin : Option (Place α))
    (id : Option Spelling) : WalkEntry α :=
  ⟨id.getD freshId, characterId, origin, target, start, start + 1.0, false, none⟩

/-- The entry of a character who stands at a place, or nowhere: a walk when it is known from
where. -/
def departing (place : Option (Place α)) (w : WalkEntry α) : WalkEntry α :=
  ((w.origin.or place).map w.walking).getD w

/-- Whether an entry neither starts nor ends before the beat. -/
def Timely (w : WalkEntry α) : Prop := 0.0 ≤ w.start ∧ 0.0 ≤ w.finish

instance (w : WalkEntry α) : Decidable w.Timely := inferInstanceAs (Decidable (_ ∧ _))

@[simp] theorem characterId_departing (place : Option (Place α)) (w : WalkEntry α) :
    (w.departing place).characterId = w.characterId := by
  rw [departing]
  cases w.origin.or place <;> rfl

@[simp] theorem target_departing (place : Option (Place α)) (w : WalkEntry α) :
    (w.departing place).target = w.target := by
  rw [departing]
  cases w.origin.or place <;> rfl

@[simp] theorem start_departing (place : Option (Place α)) (w : WalkEntry α) :
    (w.departing place).start = w.start := by
  rw [departing]
  cases w.origin.or place <;> rfl

/-- The origin is the one asked for, and else the place where the character stands. -/
@[simp] theorem origin_departing (place : Option (Place α)) (w : WalkEntry α) :
    (w.departing place).origin = w.origin.or place := by
  rw [departing]
  cases h : w.origin.or place with
  | none => exact (Option.or_eq_none_iff.1 h).1
  | some _ => rfl

/-- The walk that ends last is one of the walks. -/
theorem mem_of_latest? {ws : List (WalkEntry α)} {w : WalkEntry α} (h : latest? ws = some w) :
    w ∈ ws := by
  cases ws with
  | nil => cases h
  | cons v ws =>
    rw [← Option.some.inj h]
    refine List.foldlRecOn ws _ List.mem_cons_self fun best hbest u hu => ?_
    split
    · exact List.mem_cons_of_mem _ hu
    · exact hbest

end WalkEntry

@[simp] theorem timeProblems_eq_nil_iff {field : String} {t : α} :
    timeProblems field t = [] ↔ 0.0 ≤ t := by
  simp [timeProblems]

namespace LayeredBeat

variable (b : LayeredBeat α)

/-- The beat with a walk more, made from the entry that is asked for. -/
def withWalk (w : WalkEntry α) : LayeredBeat α :=
  { b with walks := b.walks ++ [w.departing (b.lastPlace? w.characterId)] }

theorem addWalk_eq_ok_iff {characterId : Spelling} {target : Place α} {start : α}
    {origin : Option (Place α)} {id : Option Spelling} {c : LayeredBeat α} :
    b.addWalk characterId target start origin id = .ok c ↔
      (WalkEntry.asked characterId target start origin id).Timely ∧
        b.withWalk (.asked characterId target start origin id) = c := by
  have hnil : timeProblems "start_time" start ++ timeProblems "end_time" (start + 1.0) = [] ↔
      (WalkEntry.asked characterId target start origin id).Timely := by
    rw [List.append_eq_nil_iff, timeProblems_eq_nil_iff, timeProblems_eq_nil_iff]
    rfl
  simp only [addWalk, ← hnil]
  split <;> simp_all [withWalk, WalkEntry.departing, WalkEntry.asked]

theorem addGesture_eq_ok_iff {characterId : Spelling} {gesture : StageGesture} {start : α}
    {lineId : Option Spelling} {c : LayeredBeat α} :
    b.addGesture characterId gesture start lineId = .ok c ↔
      0.0 ≤ start ∧ { b with
        gestures := b.gestures ++ [⟨freshId, characterId, gesture, start, lineId⟩] } = c := by
  have hnil : timeProblems "start_time" start = [] ↔ 0.0 ≤ start := timeProblems_eq_nil_iff
  rw [← hnil, addGesture]
  split <;> simp_all

end LayeredBeat

namespace Edit

variable (b : LayeredBeat α) (e : Edit α)

/-- An edit that is refused leaves the beat as it is. -/
theorem attempt_cases :
    (∃ ps, e.apply b = .error ps ∧ attempt b e = b) ∨
      ∃ c, e.apply b = .ok c ∧ attempt b e = c := by
  rw [attempt]
  cases e.apply b with
  | ok c => exact .inr ⟨c, rfl, rfl⟩
  | error ps => exact .inl ⟨ps, rfl, rfl⟩

/-- What an edit does to the lines: it appends one, or drops some and closes the gaps. -/
theorem lines_attempt :
    (∃ l, l.start = b.nextLineStart ∧ (attempt b e).lines = b.lines ++ [l]) ∨
      (∃ id, (attempt b e).lines = (b.removeLine id).lines) ∨ (attempt b e).lines = b.lines := by
  obtain ⟨ps, -, h⟩ | ⟨c, hc, h⟩ := attempt_cases b e
  · exact .inr (.inr (congrArg LayeredBeat.lines h))
  · rw [h]
    cases e with
    | appendLine =>
      cases hc
      exact .inl ⟨_, rfl, rfl⟩
    | removeLine id =>
      cases hc
      exact .inr (.inl ⟨id, rfl⟩)
    | addWalk =>
      obtain ⟨-, rfl⟩ := b.addWalk_eq_ok_iff.1 hc
      exact .inr (.inr rfl)
    | addGesture =>
      obtain ⟨-, rfl⟩ := b.addGesture_eq_ok_iff.1 hc
      exact .inr (.inr rfl)
    | setLocation | fixDuration =>
      cases hc
      exact .inr (.inr rfl)

theorem attempt_addWalk (characterId : Spelling) (target : Place α) (start : α)
    (origin : Option (Place α)) (id : Option Spelling) :
    attempt b (.addWalk characterId target start origin id) =
      if (WalkEntry.asked characterId target start origin id).Timely then
        b.withWalk (.asked characterId target start origin id)
      else b := by
  by_cases h : (WalkEntry.asked characterId target start origin id).Timely
  · have hok := b.addWalk_eq_ok_iff.2 ⟨h, rfl⟩
    rw [if_pos h, attempt, apply, hok]
  · rw [if_neg h]
    obtain ⟨ps, -, hattempt⟩ | ⟨c, hc, -⟩ :=
      attempt_cases b (.addWalk characterId target start origin id)
    · exact hattempt
    · exact absurd (b.addWalk_eq_ok_iff.1 hc).1 h

/-- The entry that an edit asks for a character. -/
def asks? (c : Spelling) : Edit α → Option (WalkEntry α)
  | addWalk characterId target start origin id =>
    if characterId = c then some (.asked characterId target start origin id) else none
  | _ => none

/-- What an edit does to the walks of a character: it appends the one that is asked for, unless
that would start or end before the beat. -/
theorem walksOf_attempt (c : Spelling) :
    (attempt b e).walksOf c = b.walksOf c ++
      (((e.asks? c).filter fun w => w.Timely).map (·.departing (b.lastPlace? c))).toList := by
  have hsame : ∀ b' : LayeredBeat α, b'.walks = b.walks → b'.walksOf c = b.walksOf c ++ [] :=
    fun b' h => by rw [LayeredBeat.walksOf, LayeredBeat.walksOf, h, List.append_nil]
  cases e with
  | addWalk characterId target start origin id =>
    rw [attempt_addWalk, asks?]
    generalize hw : WalkEntry.asked characterId target start origin id = w
    have hid : w.characterId = characterId := by rw [← hw]; rfl
    by_cases htimely : w.Timely
    · rw [if_pos htimely, LayeredBeat.walksOf, LayeredBeat.withWalk, List.filter_append]
      congr 1
      by_cases hc : characterId = c
      · simp [hid, hc, htimely, Option.filter]
      · simp [hid, hc]
    · rw [if_neg htimely]
      by_cases hc : characterId = c
      · simp [hc, htimely]
      · simp [hc]
  | addGesture characterId gesture start lineId =>
    refine hsame _ ?_
    obtain ⟨ps, -, h⟩ | ⟨b', hb', h⟩ :=
      attempt_cases b (.addGesture characterId gesture start lineId)
    · rw [h]
    · obtain ⟨-, rfl⟩ := b.addGesture_eq_ok_iff.1 hb'
      rw [h]
  | appendLine | removeLine | setLocation | fixDuration => exact hsame _ rfl

end Edit

end Promptbook
