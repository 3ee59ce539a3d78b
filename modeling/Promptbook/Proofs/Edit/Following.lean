import Promptbook.Proofs.Edit.Playing
import Promptbook.Proofs.Edit.Valid

/-!
# The line after the others

The editor starts a new line when the others would have been played one after the other, wherever
these start.  So one that was authored with a gap in front of it can still be playing then, or not
have started yet: of exact times, a line has been played by then just if it starts no later than
the other lines take together.  Doubles round this bound, but a line that starts no later than the
lines in front of it take has been played in doubles too.
-/

namespace Promptbook

namespace LayeredBeat

/-- Where times are exact, a line has been played when the next one starts just if it leaves no
longer gaps than the other lines fill. -/
theorem stop_le_nextLineStart_iff {K : Type} [Field K] [LinearOrder K] [IsStrictOrderedRing K]
    (span : K → K → K) {b : LayeredBeat K} {ls ks : List (LineEntry K)} {l : LineEntry K}
    (hlines : b.lines = ls ++ l :: ks) :
    letI := Measure.exact span
    l.stop ≤ b.nextLineStart ↔ l.start ≤ Measure.total ((ls ++ ks).map (·.playback)) := by
  let := Measure.exact span
  rw [LineEntry.stop, nextLineStart, hlines, Measure.total_exact, Measure.total_exact]
  simp only [List.map_append, List.map_cons, List.sum_append, List.sum_cons]
  rw [add_left_comm, add_comm l.playback]
  exact add_le_add_iff_right l.playback

variable {b : LayeredBeat Float} {ls ks : List (LineEntry Float)} {l : LineEntry Float}

/-- A line that starts no later than the lines in front of it take has been played when the next
one starts. -/
theorem stop_le_nextLineStart (hlines : b.lines = ls ++ l :: ks) (hstart : 0.0 ≤ l.start)
    (hgap : l.start ≤ Measure.total (ls.map (·.playback))) : l.stop ≤ b.nextLineStart := by
  have hplayback := l.playback_nonneg
  have hsplit : b.nextLineStart = (ks.map (·.playback)).foldl (· + ·)
      (Measure.total (ls.map (·.playback)) + l.playback) := by
    rw [nextLineStart, hlines, List.map_append, Measure.total_append]
    rfl
  have hplayed : l.stop ≤ Measure.total (ls.map (·.playback)) + l.playback :=
    Double.add_mono hstart hplayback hgap (Double.le_refl (Double.isNaN_of_le hplayback).2)
  have hpositive : 0.0 ≤ Measure.total (ls.map (·.playback)) + l.playback :=
    Double.add_nonneg (Trans.trans hstart hgap) hplayback
  rw [hsplit]
  exact Trans.trans hplayed (LineEntry.le_foldl_playback hpositive ks)

/-- A line that starts after the next one has not been played by then. -/
theorem not_stop_le_nextLineStart (hstart : 0.0 ≤ l.start) (hlate : b.nextLineStart < l.start) :
    ¬ l.stop ≤ b.nextLineStart := by
  intro hstop
  have hle : l.start ≤ b.nextLineStart :=
    Trans.trans (Double.le_add hstart l.playback_nonneg) hstop
  exact Std.not_lt_of_ge hle hlate

end LayeredBeat

/-- An appended line follows the lines that leave no gaps.  In exact times one of the others has
been played when it starts just if that one starts no later than the rest of them take together.  In
doubles, one that starts no later than the lines in front of it take has been played, so that all
have if they are packed, and one that starts after the new line has not. -/
theorem appended_follows_iff {K : Type} [Field K] [LinearOrder K] [IsStrictOrderedRing K]
    (span : K → K → K) (c : Character) (text : Spelling) (tone : Tone)
    (gesture : Option LineGesture) (id : Option Spelling) :
    letI := Measure.exact span
    (∀ b : LayeredBeat K, ∃ new, (b.appendLine c text tone gesture id).lines = b.lines ++ [new] ∧
      ∀ ls l ks, b.lines = ls ++ l :: ks →
        (l.stop ≤ new.start ↔ l.start ≤ Measure.total ((ls ++ ks).map (·.playback)))) ∧
    ∀ b : LayeredBeat Float, LayeredBeat.shape.Admits b →
      ∃ new, (b.appendLine c text tone gesture id).lines = b.lines ++ [new] ∧
        (∀ (ls : List (LineEntry Float)) (l : LineEntry Float) ks, b.lines = ls ++ l :: ks →
          (l.start ≤ Measure.total (ls.map (·.playback)) → l.stop ≤ new.start) ∧
          (new.start < l.start → ¬ l.stop ≤ new.start)) ∧
        (LineEntry.Packed b.lines → ∀ l ∈ b.lines, l.stop ≤ new.start) := by
  let := Measure.exact span
  constructor
  · intro b
    exact ⟨_, rfl, fun ls l ks hlines => LayeredBeat.stop_le_nextLineStart_iff span hlines⟩
  · intro b hb
    have hvalid := LayeredBeat.admits_shape_iff.1 hb
    refine ⟨_, rfl, fun ls l ks hlines => ?_, fun hpacked l hl => ?_⟩
    · have hl : l ∈ b.lines := by
        rw [hlines]
        exact List.mem_append_right ls List.mem_cons_self
      have hstart := hvalid.lines l hl
      exact ⟨LayeredBeat.stop_le_nextLineStart hlines hstart,
        LayeredBeat.not_stop_le_nextLineStart hstart⟩
    · obtain ⟨ls, ks, hlines⟩ := List.append_of_mem hl
      have hstart := hvalid.lines l hl
      refine LayeredBeat.stop_le_nextLineStart hlines hstart ?_
      rw [hlines] at hpacked
      rw [← hpacked.start_eq]
      exact Double.le_refl (Double.isNaN_of_le hstart).2

section Vigil

variable (α : Type) [Measure α]

/-- Ben asks as the beat starts. -/
def question : LineEntry α := ⟨"l1", "ben", "Ben", "Who is there?", .fearful, 0.0, none⟩

/-- Anna answers after a silence. -/
def lateAnswer : LineEntry α := ⟨"l2", "anna", "Anna", "Me.", .calm, 10.0, none⟩

/-- A question and a late answer. -/
def vigil : LayeredBeat α :=
  ⟨"b", "Vigil", none, .stageFloor, [question α, lateAnswer α], [], []⟩

end Vigil

/-- Another line follows the question, but not the answer. -/
theorem appended_follows_iff_vigil :
    let span (dx dy : ℚ) : ℚ := |dx| + |dy|
    letI := Measure.exact span
    let ben : Character := ⟨"ben", "Ben", .male⟩
    (∃ new, ((vigil ℚ).appendLine ben "Anna!" .happy none none).lines = (vigil ℚ).lines ++ [new] ∧
      (question ℚ).stop ≤ new.start ∧ ¬ (lateAnswer ℚ).stop ≤ new.start) ∧
    LayeredBeat.shape.Admits (vigil Float) ∧
      ∃ new, ((vigil Float).appendLine ben "Anna!" .happy none none).lines =
          (vigil Float).lines ++ [new] ∧
        (question Float).stop ≤ new.start := by
  intro span ben
  let := Measure.exact span
  have hadmits : LayeredBeat.shape.Admits (vigil Float) :=
    LayeredBeat.admits_shape_iff.2 (by decide)
  obtain ⟨hexact, hdouble⟩ := appended_follows_iff span ben "Anna!" .happy none none
  obtain ⟨new, hnew, hfollows⟩ := hexact (vigil ℚ)
  obtain ⟨new', hnew', hfollows', -⟩ := hdouble (vigil Float) hadmits
  have hfirst : (vigil ℚ).lines = [] ++ question ℚ :: [lateAnswer ℚ] := rfl
  have hlast : (vigil ℚ).lines = [question ℚ] ++ lateAnswer ℚ :: [] := rfl
  refine ⟨⟨new, hnew, ?_, ?_⟩, hadmits, new', hnew', ?_⟩
  · exact (hfollows _ _ _ hfirst).2 (by decide +kernel)
  · exact fun hstop => absurd ((hfollows _ _ _ hlast).1 hstop) (by decide +kernel)
  · exact (hfollows' [] _ [lateAnswer Float] rfl).1 (by decide)

/-- The line that is appended starts before the answer has been played. -/
theorem vigil_interrupted :
    LayeredBeat.shape.Admits (vigil Float) ∧
      let b := (vigil Float).appendLine ⟨"ben", "Ben", .male⟩ "Anna!" .happy none (some "l3")
      b.lines.map (·.start) = [0.0, 10.0, 3.4692307692307693] ∧
      ∃ new ∈ b.lines.getLast?, new.start < (lateAnswer Float).stop :=
  ⟨LayeredBeat.admits_shape_iff.2 (by decide), by decide +kernel, by decide +kernel⟩

end Promptbook
