import Promptbook.Proofs.Edit.Packed
import Promptbook.Proofs.Number.Exact

/-!
# How long lines may take

Two rules say how long a line takes.  The editor starts the next line when one has been played, and
the estimate ends the beat when all have been read; by the second rule a line of seven to
twenty-two characters is over sooner than by the first.  Lines that follow one another make up for
it: a line that is not the last one has been played when the next one starts, and the estimate
counts that one too.  So only the last line can be cut off.
-/

namespace Promptbook

section Lines

variable {α : Type} [Measure α]

/-- The second by which a line has been played. -/
def LineEntry.stop (l : LineEntry α) : α := l.start + l.playback

/-- What the duration that is fixed for a beat leaves of its lines. -/
structure LayeredBeat.PlaysOut (b : LayeredBeat α) : Prop where
  /-- A line that another one follows is played to its end. -/
  followed : ∀ ls l, b.lines = ls ++ [l] → ∀ k ∈ ls, k.stop ≤ b.fixDuration.effectiveDuration
  /-- The last line is played to its end when its text is short or long enough, or when something
  else goes on that long: the usual duration, an earlier line or the two seconds of a walk. -/
  last : ∀ ls l, b.lines = ls ++ [l] → (l.stop ≤ b.fixDuration.effectiveDuration ↔
    (l.text.length ≤ 6 ∨ 23 ≤ l.text.length) ∨ l.stop ≤ 3.0 ∨ (∃ k ∈ ls, l.stop ≤ k.finish) ∨
      ∃ w ∈ b.walks, l.stop ≤ w.start + 2.0)

/-- The estimate comes after the times until which something goes on. -/
theorem LayeredBeat.le_estimate_iff [Measure.Exact α] {b : LayeredBeat α} {t : α} :
    t ≤ b.estimate ↔
      t ≤ 3.0 ∨ (∃ l ∈ b.lines, t ≤ l.finish) ∨ ∃ w ∈ b.walks, t ≤ w.start + 2.0 := by
  rw [estimate, Measure.le_largest_iff]
  simp only [usualDuration, List.mem_append, List.mem_map, or_and_right, exists_or,
    exists_exists_and_eq_and]

end Lines

section Exact

variable {K : Type} [Field K] [LinearOrder K] [IsStrictOrderedRing K]

/-- The two rules agree that some characters take no longer to play than to read when there are few
of them or many. -/
theorem playing_le_reading_iff (n : ℕ) :
    max (((n : K) * 0.15 + 1.0) / 1.3) 1.2 ≤ max ((n : K) * 0.15) 1.5 ↔ n ≤ 6 ∨ 23 ≤ n := by
  have hfew : ((n : K) * 0.15 + 1.0) / 1.3 ≤ 1.5 ↔ n ≤ 6 := by
    rw [div_le_iff₀ (by norm_num)]
    constructor
    · intro h
      by_contra hlt
      have hle : (7 : K) ≤ n := by exact_mod_cast not_le.1 hlt
      norm_num at h
      linarith
    · intro h
      have hle : (n : K) ≤ 6 := by exact_mod_cast h
      norm_num
      linarith
  have hmany : ((n : K) * 0.15 + 1.0) / 1.3 ≤ (n : K) * 0.15 ↔ 23 ≤ n := by
    rw [div_le_iff₀ (by norm_num)]
    constructor
    · intro h
      by_contra hlt
      have hle : (n : K) ≤ 22 := by exact_mod_cast Nat.le_of_lt_succ (not_le.1 hlt)
      norm_num at h
      linarith
    · intro h
      have hle : (23 : K) ≤ n := by exact_mod_cast h
      norm_num
      linarith
  have hleast : (1.2 : K) ≤ (n : K) * 0.15 ∨ (1.2 : K) ≤ 1.5 := .inr (by norm_num)
  rw [max_le_iff, le_max_iff, le_max_iff, and_iff_left hleast, hmany, hfew, or_comm]

variable (span : K → K → K)

namespace LineEntry

theorem stop_le_finish_iff (l : LineEntry K) :
    letI := Measure.exact span
    l.stop ≤ l.finish ↔ l.text.length ≤ 6 ∨ 23 ≤ l.text.length := by
  let := Measure.exact span
  apply (add_le_add_iff_left l.start).trans
  rw [playback, Measure.sup_exact, Measure.sup_exact]
  exact playing_le_reading_iff l.text.length

variable {span} {ls : List (LineEntry K)} {l : LineEntry K}

/-- Packed lines have been played by the time that they take together. -/
theorem Packed.stop_le (h : letI := Measure.exact span; Packed ls) :
    letI := Measure.exact span
    ∀ k ∈ ls, k.stop ≤ Measure.total (ls.map (·.playback)) := by
  let := Measure.exact span
  induction ls using List.reverseRecOn with
  | nil => exact List.forall_mem_nil _
  | append_singleton ls l ih =>
    obtain ⟨hls, hl⟩ := packed_append_singleton_iff.1 h
    rw [List.map_append, List.map_singleton, Measure.total_append_singleton]
    intro k hk
    rcases List.mem_append.1 hk with hk | hk
    · have hplayback : 0.0 < l.playback := Measure.sup_pos _ (by norm_num)
      exact (ih hls k hk).trans (Std.le_of_lt (Measure.Exact.lt_add _ hplayback))
    · rw [List.mem_singleton.1 hk, stop, hl]

/-- A line in front of another one has been played when the other starts. -/
theorem Packed.stop_le_start (h : letI := Measure.exact span; Packed (ls ++ [l])) :
    letI := Measure.exact span
    ∀ k ∈ ls, k.stop ≤ l.start := by
  let := Measure.exact span
  obtain ⟨hls, hl⟩ := packed_append_singleton_iff.1 h
  rw [hl]
  exact hls.stop_le

theorem start_le_finish (l : LineEntry K) :
    letI := Measure.exact span
    l.start ≤ l.finish := by
  let := Measure.exact span
  have hlasting : 0.0 < Measure.sup ((l.text.length : K) * 0.15) 1.5 :=
    Measure.sup_pos _ (by norm_num)
  exact Std.le_of_lt (Measure.Exact.lt_add _ hlasting)

end LineEntry

/-- Of packed lines only the last one can be cut off. -/
theorem LayeredBeat.playsOut_of_packed {b : LayeredBeat K}
    (h : letI := Measure.exact span; LineEntry.Packed b.lines) :
    @LayeredBeat.PlaysOut K (Measure.exact span) b := by
  let := Measure.exact span
  constructor
  case followed =>
    intro ls l hls k hk
    rw [hls] at h
    have hl : l ∈ b.lines := by
      rw [hls]
      exact List.mem_append_right ls (List.mem_singleton_self l)
    have hread : k.stop ≤ l.finish := (h.stop_le_start k hk).trans l.start_le_finish
    exact le_estimate_iff.2 (.inr (.inl ⟨l, hl, hread⟩))
  case last =>
    intro ls l hls
    have hlines : (∃ k ∈ b.lines, l.stop ≤ k.finish) ↔
        (l.text.length ≤ 6 ∨ 23 ≤ l.text.length) ∨ ∃ k ∈ ls, l.stop ≤ k.finish := by
      rw [hls, ← l.stop_le_finish_iff span, or_comm]
      simp only [List.mem_append, List.mem_singleton, or_and_right, exists_or, exists_eq_left]
    show l.stop ≤ b.estimate ↔ _
    rw [le_estimate_iff, hlines]
    exact (or_congr_right or_assoc).trans or_left_comm

end Exact

/-- Edited dialogue is played to its end but for the last line, where times are exact: whatever is
edited from an empty layer on, with the duration that is fixed then each line that another one
follows has been played when the beat ends, and the last one has unless its text is of a middle
length and nothing else goes on until its end. -/
theorem last_line_plays_out_iff {K : Type} [Field K] [LinearOrder K] [IsStrictOrderedRing K]
    (span : K → K → K) (b : LayeredBeat K) (hb : b.lines = []) (es : List (Edit K)) :
    letI := Measure.exact span
    (Edit.run b es).PlaysOut := by
  let := Measure.exact span
  have hempty : LineEntry.Packed b.lines := by
    rw [hb]
    exact LineEntry.packed_nil
  exact LayeredBeat.playsOut_of_packed span (Edit.packed_run hempty es)

/-- A beat in which nothing has been said yet. -/
def evening (α : Type) : LayeredBeat α := ⟨"b", "Evening", none, .stageFloor, [], [], []⟩

/-- Anna greets, and Ben returns the greeting. -/
def greetings (α : Type) : List (Edit α) :=
  [.appendLine ⟨"anna", "Anna", .female⟩ "Good evening!" .happy none none,
    .appendLine ⟨"ben", "Ben", .male⟩ "Good evening!" .happy none none]

theorem last_line_plays_out_iff_greetings :
    let span (dx dy : ℚ) : ℚ := |dx| + |dy|
    letI := Measure.exact span
    (evening ℚ).lines = [] ∧ (Edit.run (evening ℚ) (greetings ℚ)).PlaysOut :=
  ⟨rfl, last_line_plays_out_iff _ _ rfl _⟩

/-- The beat ends while Ben is greeting, in exact numbers as well as in doubles. -/
theorem greeting_cut_off :
    let span (dx dy : ℚ) : ℚ := |dx| + |dy|
    letI := Measure.exact span
    let b := Edit.run (evening ℚ) (greetings ℚ)
    let c := Edit.run (evening Float) (greetings Float)
    b.lines.map (·.stop) = [59 / 26, 59 / 13] ∧ b.fixDuration.duration = some (1097 / 260) ∧
      (¬ ∀ l ∈ b.lines, l.stop ≤ b.fixDuration.effectiveDuration) ∧
      ¬ ∀ l ∈ c.lines, l.stop ≤ c.fixDuration.effectiveDuration := by
  intro span b c
  exact ⟨by decide +kernel, by decide +kernel, by decide +kernel, by decide +kernel⟩

end Promptbook
