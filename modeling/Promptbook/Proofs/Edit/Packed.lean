import Promptbook.Proofs.Edit.Attempt
import Promptbook.Proofs.Number.Monotone

/-!
# Lines back to back

Edits set the start of a line in two ways: an appended line starts at the sum of what the others
take, and after a removal a clock runs through the lines that are left.  Both leave a layer in
which each line starts when the lines before it have been played, and this holds of the very
doubles, since sum and clock add the same numbers in the same order.
-/

namespace Promptbook

section Lines

variable {α : Type} [Measure α]

namespace LineEntry

/-- Whether each line starts when the lines before it have been played one after the other. -/
def Packed (ls : List (LineEntry α)) : Prop :=
  ∀ i (h : i < ls.length), ls[i].start = Measure.total ((ls.take i).map (·.playback))

instance [DecidableEq α] (ls : List (LineEntry α)) : Decidable (Packed ls) :=
  inferInstanceAs (Decidable (∀ i (_ : i < ls.length), _))

variable {ls : List (LineEntry α)} {l : LineEntry α}

theorem packed_nil : Packed ([] : List (LineEntry α)) := fun _ h => absurd h (Nat.not_lt_zero _)

/-- Of packed lines each one starts when those in front of it have been played. -/
theorem Packed.start_eq {ks : List (LineEntry α)} (h : Packed (ls ++ l :: ks)) :
    l.start = Measure.total (ls.map (·.playback)) := by
  simpa using h ls.length (by simp)

theorem packed_append_singleton_iff :
    Packed (ls ++ [l]) ↔ Packed ls ∧ l.start = Measure.total (ls.map (·.playback)) := by
  constructor
  · intro h
    refine ⟨fun i hi => ?_, h.start_eq⟩
    have hstart := h i (by rw [List.length_append]; omega)
    rwa [List.getElem_append_left hi, List.take_append_of_le_length hi.le] at hstart
  · rintro ⟨hls, hl⟩ i hi
    have hlength : i < ls.length + 1 := by simpa using hi
    rcases Nat.lt_succ_iff_lt_or_eq.1 hlength with hi' | rfl
    · rw [List.getElem_append_left hi', List.take_append_of_le_length hi'.le]
      exact hls i hi'
    · rwa [List.getElem_concat_length rfl, List.take_left]

@[simp] theorem length_retime (t : α) (ls : List (LineEntry α)) :
    (retime t ls).length = ls.length := by
  induction ls generalizing t with
  | nil => rfl
  | cons l ls ih => exact congrArg (· + 1) (ih _)

/-- A line takes as long wherever it starts. -/
theorem map_playback_retime (t : α) (ls : List (LineEntry α)) :
    (retime t ls).map (·.playback) = ls.map (·.playback) := by
  induction ls generalizing t with
  | nil => rfl
  | cons l ls ih => exact congrArg (l.playback :: ·) (ih _)

/-- The clock that runs through lines has added up what the earlier ones take. -/
theorem start_retime (t : α) (ls : List (LineEntry α)) (i : ℕ) (h : i < (retime t ls).length) :
    (retime t ls)[i].start = ((ls.take i).map (·.playback)).foldl (· + ·) t := by
  induction ls generalizing t i with
  | nil => exact absurd h (Nat.not_lt_zero _)
  | cons l ls ih =>
    cases i with
    | zero => rfl
    | succ i => exact ih (t + l.playback) i (Nat.lt_of_succ_lt_succ h)

/-- Lines are packed after their starts have been set from the beginning. -/
theorem packed_retime (ls : List (LineEntry α)) : Packed (retime 0.0 ls) := by
  intro i h
  rw [start_retime, List.map_take, List.map_take, map_playback_retime]
  rfl

/-- A packed line starts when the lines from an earlier one on have been played. -/
theorem Packed.start_later (h : Packed ls) {i j : ℕ} (hij : i ≤ j) (hj : j < ls.length) :
    ls[j].start = (((ls.take j).drop i).map (·.playback)).foldl (· + ·) ls[i].start := by
  have hsplit : ls.take j = ls.take i ++ (ls.take j).drop i :=
    calc ls.take j
        = (ls.take j).take i ++ (ls.take j).drop i := (List.take_append_drop ..).symm
      _ = ls.take i ++ (ls.take j).drop i := by rw [List.take_take, min_eq_left hij]
  calc ls[j].start
      = Measure.total ((ls.take i).map (·.playback) ++
          ((ls.take j).drop i).map (·.playback)) := by
        rw [h j hj, ← List.map_append, ← hsplit]
    _ = _ := by rw [Measure.total_append, h i (hij.trans_lt hj)]

end LineEntry

namespace LayeredBeat

variable {b : LayeredBeat α}

theorem packed_removeLine (b : LayeredBeat α) (id : Spelling) :
    LineEntry.Packed (b.removeLine id).lines := LineEntry.packed_retime _

/-- The next line starts when the last one has been played. -/
theorem nextLineStart_of_packed (h : LineEntry.Packed b.lines) {l : LineEntry α}
    (hl : l ∈ b.lines.getLast?) : b.nextLineStart = l.start + l.playback := by
  obtain ⟨ls, hls⟩ := List.getLast?_eq_some_iff.1 hl
  rw [hls, LineEntry.packed_append_singleton_iff] at h
  rw [nextLineStart, hls, List.map_append, List.map_singleton, Measure.total_append_singleton, h.2]

end LayeredBeat

namespace Edit

variable {b : LayeredBeat α}

theorem packed_attempt (h : LineEntry.Packed b.lines) (e : Edit α) :
    LineEntry.Packed (attempt b e).lines := by
  obtain ⟨l, hl, hlines⟩ | ⟨id, hlines⟩ | hlines := lines_attempt b e
  · rw [hlines, LineEntry.packed_append_singleton_iff]
    exact ⟨h, hl⟩
  · rw [hlines]
    exact b.packed_removeLine id
  · rwa [hlines]

theorem packed_run (h : LineEntry.Packed b.lines) (es : List (Edit α)) :
    LineEntry.Packed (run b es).lines := by
  induction es generalizing b with
  | nil => exact h
  | cons e es ih => exact ih (packed_attempt h e)

end Edit

end Lines

/-! ## The order of the starts -/

namespace LineEntry

/-- A line takes time, however short it is. -/
theorem playback_nonneg (l : LineEntry Float) : 0.0 ≤ l.playback := by
  have hcount : 0.0 ≤ Double.ofInt l.text.length * 0.15 :=
    Double.mul_nonneg (Double.ofInt_nonneg _) (by decide) (by decide)
  have hlength : 0.0 ≤ (Double.ofInt l.text.length * 0.15 + 1.0) / 1.3 :=
    Double.div_nonneg (Double.add_nonneg hcount (by decide)) (by decide) (by decide)
  exact Double.sup_nonneg hlength (by decide)

/-- Some lines later the clock shows no less. -/
theorem le_foldl_playback {t : Float} (ht : 0.0 ≤ t) (ls : List (LineEntry Float)) :
    t ≤ (ls.map (·.playback)).foldl (· + ·) t :=
  Double.le_foldl_add ht (List.forall_mem_map.2 fun l _ => l.playback_nonneg)

theorem Packed.start_nonneg {ls : List (LineEntry Float)} (h : Packed ls) :
    ∀ l ∈ ls, 0.0 ≤ l.start := by
  intro l hl
  obtain ⟨i, hi, rfl⟩ := List.getElem_of_mem hl
  rw [h i hi]
  exact le_foldl_playback (by decide) _

/-- The lines in the order of their starts. -/
def sorted (ls : List (LineEntry Float)) : List (LineEntry Float) :=
  ls.mergeSort fun l k => decide ¬ k.start < l.start

theorem sorted_of_pairwise {ls : List (LineEntry Float)}
    (h : ls.Pairwise fun l k => l.start ≤ k.start) : sorted ls = ls :=
  List.mergeSort_of_pairwise (h.imp fun hle => decide_eq_true (Std.not_lt_of_ge hle))

/-- Packed lines are in the order of their starts. -/
theorem Packed.pairwise {ls : List (LineEntry Float)} (h : Packed ls) :
    ls.Pairwise fun l k => l.start ≤ k.start := by
  rw [List.pairwise_iff_getElem]
  intro i j hi hj hij
  rw [h.start_later hij.le hj]
  exact le_foldl_playback (h.start_nonneg _ (List.getElem_mem hi)) _

end LineEntry

/-- From packed lines a removal takes one away and keeps the others in their order. -/
theorem LayeredBeat.lines_removeLine_of_packed {b : LayeredBeat Float}
    (h : LineEntry.Packed b.lines) (id : Spelling) :
    (b.removeLine id).lines = LineEntry.retime 0.0 (b.lines.filter fun l => l.id ≠ id) :=
  congrArg (LineEntry.retime 0.0) (LineEntry.sorted_of_pairwise (h.pairwise.filter _))

/-- Edited dialogue stays back to back: from an empty layer on, and after every removal, each line
starts when the lines before it have been played.  The lines are then in the order of their starts,
and the next one would start when the last has been played. -/
theorem lines_stay_packed :
    (∀ (b : LayeredBeat Float) (es : List (Edit Float)), b.lines = [] →
      LineEntry.Packed (Edit.run b es).lines ∧
      (Edit.run b es).lines.Pairwise (fun l k => l.start ≤ k.start) ∧
      ∀ l ∈ (Edit.run b es).lines.getLast?,
        (Edit.run b es).nextLineStart = l.start + l.playback) ∧
    ∀ (b : LayeredBeat Float) (id : Spelling), LineEntry.Packed (b.removeLine id).lines := by
  refine ⟨fun b es hb => ?_, fun b id => b.packed_removeLine id⟩
  have hempty : LineEntry.Packed b.lines := by
    rw [hb]
    exact LineEntry.packed_nil
  have hpacked := Edit.packed_run hempty es
  exact ⟨hpacked, hpacked.pairwise, fun l hl => LayeredBeat.nextLineStart_of_packed hpacked hl⟩

/-- Of two lines the first is removed, after a walk that would start before the beat is refused. -/
theorem lines_stay_packed_greeting :
    let anna : Character := ⟨"anna", "Anna", .female⟩
    let b : LayeredBeat Float := ⟨"b", "Greeting", none, .stageFloor, [], [], []⟩
    let es : List (Edit Float) :=
      [.appendLine anna "Good evening!" .happy none (some "l1"), .appendLine anna "" .shy none none,
        .addWalk "anna" ⟨0.5, 0.5⟩ (-1.0) none none, .removeLine "l1"]
    b.lines = [] ∧
      LineEntry.Packed (Edit.run b es).lines ∧
      (Edit.run b es).lines.Pairwise (fun l k => l.start ≤ k.start) ∧
      ∀ l ∈ (Edit.run b es).lines.getLast?,
        (Edit.run b es).nextLineStart = l.start + l.playback :=
  ⟨rfl, lines_stay_packed.1 _ _ rfl⟩

end Promptbook
