import Promptbook.Proofs.Edit.Lasting

/-!
# What the estimate depends on

The estimate is the largest of some numbers, none of which is below zero, so it is known by its upper
bounds: a time is one just in case all that the estimate counts is over by then.  What does not
change this does not change the estimate either, and what adds an entry can only raise it.
-/

namespace Promptbook

namespace LayeredBeat

/-- Whether all that the estimate counts is over by a time: the usual duration, the lines, and the
two seconds of each walk. -/
structure OverBy (b : LayeredBeat Float) (t : Float) : Prop where
  usual : 3.0 ≤ t
  lines : ∀ l ∈ b.lines, l.finish ≤ t
  walks : ∀ w ∈ b.walks, w.start + 2.0 ≤ t

variable {b c d : LayeredBeat Float} {t : Float}

/-- The estimate comes before the times by which all is over. -/
theorem StartsInTime.estimate_le_iff (hb : b.StartsInTime) : b.estimate ≤ t ↔ b.OverBy t := by
  rw [estimate, Double.largest_le_iff (by decide) hb.isNaN_ends, List.forall_mem_append,
    List.forall_mem_map, List.forall_mem_map]
  constructor
  · rintro ⟨husual, hlines, hwalks⟩
    exact ⟨husual, hlines, hwalks⟩
  · intro h
    exact ⟨h.usual, h.lines, h.walks⟩

theorem isNaN_estimate (b : LayeredBeat Float) : b.estimate.isNaN = false :=
  (Double.isNaN_of_le (Std.le_of_lt b.estimate_pos)).2

theorem StartsInTime.overBy_estimate (hb : b.StartsInTime) : b.OverBy b.estimate :=
  hb.estimate_le_iff.1 (Double.le_refl b.isNaN_estimate)

/-- The estimate depends only on when all is over. -/
theorem estimate_eq_of_overBy (hb : b.StartsInTime) (hc : c.StartsInTime)
    (h : ∀ t, b.OverBy t ↔ c.OverBy t) : b.estimate = c.estimate := by
  refine Double.eq_of_forall_le_iff b.estimate_pos c.estimate_pos fun t => ?_
  rw [hb.estimate_le_iff, hc.estimate_le_iff, h]

/-- The order of the entries does not matter to the estimate. -/
theorem StartsInTime.estimate_perm (hb : b.StartsInTime) (hlines : c.lines.Perm b.lines)
    (hwalks : c.walks.Perm b.walks) : c.estimate = b.estimate := by
  have hc : c.StartsInTime :=
    ⟨fun l hl => hb.lines l (hlines.mem_iff.1 hl), fun w hw => hb.walks w (hwalks.mem_iff.1 hw)⟩
  refine estimate_eq_of_overBy hc hb fun t => ⟨fun h => ?_, fun h => ?_⟩
  · exact ⟨h.usual, fun l hl => h.lines l (hlines.mem_iff.2 hl),
      fun w hw => h.walks w (hwalks.mem_iff.2 hw)⟩
  · exact ⟨h.usual, fun l hl => h.lines l (hlines.mem_iff.1 hl),
      fun w hw => h.walks w (hwalks.mem_iff.1 hw)⟩

section Append

variable (hlines : d.lines = b.lines ++ c.lines) (hwalks : d.walks = b.walks ++ c.walks)

include hlines hwalks

theorem overBy_append_iff : d.OverBy t ↔ b.OverBy t ∧ c.OverBy t := by
  constructor
  · rintro ⟨husual, hl, hw⟩
    rw [hlines, List.forall_mem_append] at hl
    rw [hwalks, List.forall_mem_append] at hw
    exact ⟨⟨husual, hl.1, hw.1⟩, ⟨husual, hl.2, hw.2⟩⟩
  · rintro ⟨hb, hc⟩
    refine ⟨hb.usual, ?_, ?_⟩
    · rw [hlines]
      exact List.forall_mem_append.2 ⟨hb.lines, hc.lines⟩
    · rw [hwalks]
      exact List.forall_mem_append.2 ⟨hb.walks, hc.walks⟩

theorem StartsInTime.append (hb : b.StartsInTime) (hc : c.StartsInTime) : d.StartsInTime := by
  constructor
  · rw [hlines]
    exact List.forall_mem_append.2 ⟨hb.lines, hc.lines⟩
  · rw [hwalks]
    exact List.forall_mem_append.2 ⟨hb.walks, hc.walks⟩

/-- Layers one behind the other take as long as the longer ones. -/
theorem StartsInTime.estimate_append (hb : b.StartsInTime) (hc : c.StartsInTime) :
    d.estimate = Measure.sup b.estimate c.estimate := by
  have hsup : 0.0 < Measure.sup b.estimate c.estimate :=
    Double.largest_pos b.estimate_pos [c.estimate]
  refine Double.eq_of_forall_le_iff d.estimate_pos hsup fun t => ?_
  rw [(hb.append hlines hwalks hc).estimate_le_iff, overBy_append_iff hlines hwalks,
    Double.sup_le_iff b.isNaN_estimate c.isNaN_estimate, hb.estimate_le_iff, hc.estimate_le_iff]

/-- More entries do not make the estimate smaller. -/
theorem StartsInTime.estimate_le_append (hb : b.StartsInTime) (hc : c.StartsInTime) :
    b.estimate ≤ d.estimate := by
  have hd : d.OverBy d.estimate := (hb.append hlines hwalks hc).overBy_estimate
  exact hb.estimate_le_iff.2 ((overBy_append_iff hlines hwalks).1 hd).1

end Append

/-- An appended line does not make the estimate smaller. -/
theorem Valid.estimate_le_appendLine (hb : b.Valid) (speaker : Character) (text : Spelling)
    (tone : Tone) (gesture : Option LineGesture) (id : Option Spelling) :
    b.estimate ≤ (b.appendLine speaker text tone gesture id).estimate := by
  have hstart : 0.0 ≤ b.nextLineStart := LineEntry.le_foldl_playback (by decide) _
  refine hb.startsInTime.estimate_le_append
    (c := { b with lines := [⟨id.getD freshId, speaker.id, speaker.name, text, tone,
      b.nextLineStart, gesture⟩], walks := [] }) rfl (List.append_nil _).symm ⟨?_, ?_⟩
  · exact List.forall_mem_singleton.2 hstart
  · exact List.forall_mem_nil _

/-- An added walk does not make the estimate smaller. -/
theorem Valid.estimate_le_addWalk (hb : b.Valid) {characterId : Spelling} {target : Place Float}
    {start : Float} {origin : Option (Place Float)} {id : Option Spelling}
    (hc : b.addWalk characterId target start origin id = .ok c) : b.estimate ≤ c.estimate := by
  obtain ⟨htimely, rfl⟩ := b.addWalk_eq_ok_iff.1 hc
  refine hb.startsInTime.estimate_le_append
    (c := { b with lines := [], walks := [(WalkEntry.asked characterId target start origin
      id).departing (b.lastPlace? characterId)] }) (List.append_nil _).symm rfl ⟨?_, ?_⟩
  · exact List.forall_mem_nil _
  · rw [List.forall_mem_singleton, WalkEntry.start_departing]
    exact htimely.1

/-- To fix an open duration does not change what a beat flattens to. -/
theorem flatten_fixDuration (hopen : b.duration = none) (ds : Directory) :
    b.fixDuration.flatten ds = b.flatten ds := by
  have hduration : b.fixDuration.effectiveDuration = b.effectiveDuration := by
    rw [effectiveDuration, effectiveDuration, hopen]
    rfl
  rw [flatten, flatten, hduration]
  rfl

end LayeredBeat

/-- The estimate of a beat is the least time by which all that it counts is over.  The order of the
entries does not matter to it, nor do gestures, location and duration.  Layers one behind the other
take as long as the longer ones, so that an appended line or an added walk makes no estimate
smaller; and to fix the estimate as the duration leaves what an open beat flattens to. -/
theorem estimate_least_overBy (b : LayeredBeat Float) (hb : LayeredBeat.shape.Admits b) :
    (b.OverBy b.estimate ∧ ∀ t, b.OverBy t → b.estimate ≤ t) ∧
    (∀ c : LayeredBeat Float, c.lines.Perm b.lines → c.walks.Perm b.walks →
      c.estimate = b.estimate) ∧
    (∀ c : LayeredBeat Float, LayeredBeat.shape.Admits c → ∀ d : LayeredBeat Float,
      d.lines = b.lines ++ c.lines → d.walks = b.walks ++ c.walks →
        d.estimate = Measure.sup b.estimate c.estimate) ∧
    (∀ speaker text tone gesture id,
      b.estimate ≤ (b.appendLine speaker text tone gesture id).estimate) ∧
    (∀ characterId target start origin id c,
      b.addWalk characterId target start origin id = .ok c → b.estimate ≤ c.estimate) ∧
    (b.duration = none → ∀ ds, b.fixDuration.flatten ds = b.flatten ds) := by
  have hvalid : b.Valid := LayeredBeat.admits_shape_iff.1 hb
  have hstarts := hvalid.startsInTime
  refine ⟨⟨hstarts.overBy_estimate, fun t => hstarts.estimate_le_iff.2⟩, ?_, ?_, ?_, ?_, ?_⟩
  · intro c hlines hwalks
    exact hstarts.estimate_perm hlines hwalks
  · intro c hc d hlines hwalks
    exact hstarts.estimate_append hlines hwalks (LayeredBeat.admits_shape_iff.1 hc).startsInTime
  · exact hvalid.estimate_le_appendLine
  · intro characterId target start origin id c hc
    exact hvalid.estimate_le_addWalk hc
  · exact LayeredBeat.flatten_fixDuration

/-- Anna talks for a while, and at the end of all times she leaves: a beat that has only the first
of it takes eight seconds, and a beat with both never ends. -/
theorem estimate_least_overBy_endless :
    let l : LineEntry Float :=
      ⟨"l", "anna", "Anna", "Good evening, ladies and gentlemen!", .happy, 2.75, none⟩
    let w : WalkEntry Float := ⟨"w", "anna", none, Landmark.right.canvasPlace, Double.infinity,
      Double.infinity, false, none⟩
    let b : LayeredBeat Float := ⟨"b", "Talk", none, .stageFloor, [l], [], []⟩
    let c : LayeredBeat Float := ⟨"c", "Leave", some 1.0, .stageFloor, [], [], [w]⟩
    let d : LayeredBeat Float := ⟨"d", "Both", none, .stageFloor, [l], [], [w]⟩
    LayeredBeat.shape.Admits b ∧ LayeredBeat.shape.Admits c ∧ b.estimate = 8.0 ∧
      b.OverBy b.estimate ∧ d.estimate = Measure.sup b.estimate c.estimate ∧
      d.estimate = Double.infinity ∧
      ∀ ds, b.fixDuration.flatten ds = b.flatten ds := by
  intro l w b c d
  have hb : LayeredBeat.shape.Admits b := LayeredBeat.admits_shape_iff.2 (by decide)
  have hc : LayeredBeat.shape.Admits c := LayeredBeat.admits_shape_iff.2 (by decide)
  obtain ⟨⟨hover, -⟩, -, happend, -, -, hflatten⟩ := estimate_least_overBy b hb
  exact ⟨hb, hc, by decide +kernel, hover, happend c hc d rfl rfl, by decide +kernel,
    hflatten rfl⟩

end Promptbook
