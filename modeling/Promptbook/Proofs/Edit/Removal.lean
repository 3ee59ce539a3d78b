import Promptbook.Proofs.Edit.Valid
import Promptbook.Proofs.Number.Sorting

/-!
# Removed lines

A removal sorts the lines that it leaves by their starts and then sets these anew, so the next one
sorts by starts that the first one has made up.  It finds the lines packed, though, and so in order
already: some removals in a row take their lines away from the list that the first of them has
sorted.  As a stable sort does not care whether lines are taken away before it or after it, the
removals can be exchanged.
-/

namespace Promptbook

namespace LineEntry

section Lines

variable {α : Type} [Measure α]

/-- Whether a line is another one that starts at its own time. -/
def Retimed (l k : LineEntry α) : Prop := k = { l with start := k.start }

theorem forall₂_retime (t : α) (ls : List (LineEntry α)) :
    List.Forall₂ Retimed ls (retime t ls) := by
  induction ls generalizing t with
  | nil => exact .nil
  | cons l ls ih => exact .cons rfl (ih (t + l.playback))

/-- The clock makes nothing of the starts that it finds. -/
theorem retime_filter_retime (s t : α) (id : Spelling) (ls : List (LineEntry α)) :
    retime t ((retime s ls).filter fun l => l.id ≠ id) =
      retime t (ls.filter fun l => l.id ≠ id) := by
  induction ls generalizing s t with
  | nil => rfl
  | cons l ls ih =>
    rw [retime]
    by_cases hid : l.id = id
    · rw [List.filter_cons_of_neg (by simpa), List.filter_cons_of_neg (by simpa)]
      exact ih (s + l.playback) t
    · rw [List.filter_cons_of_pos (by simpa), List.filter_cons_of_pos (by simpa), retime, retime]
      exact congrArg ({ l with start := t } :: ·) (ih (s + l.playback) (t + l.playback))

/-- Packed lines are where the clock puts them. -/
theorem Packed.retime_eq {ls : List (LineEntry α)} (h : Packed ls) : retime 0.0 ls = ls := by
  refine List.ext_getElem (length_retime 0.0 ls) fun i hi hi' => ?_
  have hstart : (retime 0.0 ls)[i].start = ls[i].start := by
    rw [packed_retime ls i hi, h i hi', List.map_take, List.map_take, map_playback_retime]
  have hline : Retimed ls[i] (retime 0.0 ls)[i] := (forall₂_retime 0.0 ls).get hi' hi
  rw [hline, hstart]

end Lines

/-- What it means that lines are some others in the order of their starts: they are the same lines,
each as often, in that order, and those that start together come as they came. -/
structure InOrder (ls ks : List (LineEntry Float)) : Prop where
  perm : ks.Perm ls
  ordered : ks.Pairwise fun l k => l.start ≤ k.start
  together : ∀ t, ks.filter (fun l => l.start ≤ t ∧ t ≤ l.start) =
    ls.filter fun l => l.start ≤ t ∧ t ≤ l.start

theorem inOrder_sorted {ls : List (LineEntry Float)} (h : ∀ l ∈ ls, l.start.isNaN = false) :
    InOrder ls (sorted ls) := by
  refine ⟨List.mergeSort_perm ls _, Double.pairwise_mergeSort h, fun t => ?_⟩
  rw [sorted, Double.filter_mergeSort h]
  refine sorted_of_pairwise (List.pairwise_of_forall_mem_list fun l hl k hk => ?_)
  simp only [List.mem_filter, decide_eq_true_eq] at hl hk
  exact Trans.trans hl.2.1 hk.2.2

end LineEntry

namespace LayeredBeat

variable {b : LayeredBeat Float}

theorem Valid.isNaN_lines (hb : b.Valid) : ∀ l ∈ b.lines, l.start.isNaN = false :=
  fun l hl => (Double.isNaN_of_le (hb.lines l hl)).2

/-- Two removals leave what is left of the sorted lines. -/
theorem Valid.removeLine_removeLine (hb : b.Valid) (i j : Spelling) :
    (b.removeLine i).removeLine j = { b with lines := LineEntry.retime 0.0 (LineEntry.sorted
      ((b.lines.filter fun l => l.id ≠ i).filter fun l => l.id ≠ j)) } := by
  have hnumbers : ∀ l ∈ b.lines.filter fun l => l.id ≠ i, l.start.isNaN = false :=
    fun l hl => hb.isNaN_lines l (List.mem_of_mem_filter hl)
  have hlines : ((b.removeLine i).removeLine j).lines = LineEntry.retime 0.0 (LineEntry.sorted
      ((b.lines.filter fun l => l.id ≠ i).filter fun l => l.id ≠ j)) :=
    -- The second removal finds packed lines, which need no sorting.
    calc ((b.removeLine i).removeLine j).lines
        = LineEntry.retime 0.0 ((b.removeLine i).lines.filter fun l => l.id ≠ j) :=
          lines_removeLine_of_packed (b.packed_removeLine i) j
      _ = LineEntry.retime 0.0 ((LineEntry.sorted (b.lines.filter fun l => l.id ≠ i)).filter
            fun l => l.id ≠ j) := LineEntry.retime_filter_retime 0.0 0.0 j _
      _ = _ := congrArg (LineEntry.retime 0.0) (Double.filter_mergeSort hnumbers _)
  rw [← hlines]
  rfl

theorem Valid.removeLine_idem (hb : b.Valid) (i : Spelling) :
    (b.removeLine i).removeLine i = b.removeLine i := by
  rw [hb.removeLine_removeLine, List.filter_filter]
  simp only [Bool.and_self]
  rfl

theorem Valid.removeLine_comm (hb : b.Valid) (i j : Spelling) :
    (b.removeLine i).removeLine j = (b.removeLine j).removeLine i := by
  rw [hb.removeLine_removeLine, hb.removeLine_removeLine, List.filter_comm]

/-- From packed lines nothing is taken with an id that none of them has. -/
theorem removeLine_of_packed (h : LineEntry.Packed b.lines) {i : Spelling}
    (hi : ∀ l ∈ b.lines, l.id ≠ i) : b.removeLine i = b := by
  have hkept : b.lines.filter (fun l => l.id ≠ i) = b.lines :=
    List.filter_eq_self.2 fun l hl => decide_eq_true (hi l hl)
  have hlines : (b.removeLine i).lines = b.lines := by
    rw [lines_removeLine_of_packed h, hkept, h.retime_eq]
  calc b.removeLine i = { b with lines := (b.removeLine i).lines } := rfl
    _ = b := by rw [hlines]

/-- An appended line leaves no trace when its id is removed. -/
theorem removeLine_appendLine (b : LayeredBeat Float) (c : Character) (text : Spelling)
    (tone : Tone) (gesture : Option LineGesture) (i : Spelling) :
    (b.appendLine c text tone gesture (some i)).removeLine i = b.removeLine i := by
  have hlines : (b.appendLine c text tone gesture (some i)).lines.filter (fun l => l.id ≠ i) =
      b.lines.filter fun l => l.id ≠ i := by
    simp [appendLine]
  rw [removeLine, hlines]
  rfl

end LayeredBeat

/-- The algebra of removals.  A removal leaves the lines with other ids in the order of their
starts, changed in nothing but these, and all else as it is; removing an id a second time does
nothing, and removals can be exchanged.  Of packed lines a removal gives the beat itself when no
line has the id, and takes back what was appended under it. -/
theorem removals_agree (b : LayeredBeat Float) (hb : LayeredBeat.shape.Admits b)
    (i j : Spelling) :
    (∃ ks ls, LineEntry.InOrder (b.lines.filter fun l => l.id ≠ i) ks ∧
      List.Forall₂ LineEntry.Retimed ks ls ∧ b.removeLine i = { b with lines := ls }) ∧
    (b.removeLine i).removeLine i = b.removeLine i ∧
    (b.removeLine i).removeLine j = (b.removeLine j).removeLine i ∧
    (LineEntry.Packed b.lines → (∀ l ∈ b.lines, l.id ≠ i) →
      b.removeLine i = b ∧
      ∀ c text tone gesture, (b.appendLine c text tone gesture (some i)).removeLine i = b) := by
  have hvalid := LayeredBeat.admits_shape_iff.1 hb
  refine ⟨?_, hvalid.removeLine_idem i, hvalid.removeLine_comm i j, fun hpacked hi => ?_⟩
  · have hnumbers : ∀ l ∈ b.lines.filter fun l => l.id ≠ i, l.start.isNaN = false :=
      fun l hl => hvalid.isNaN_lines l (List.mem_of_mem_filter hl)
    exact ⟨_, _, LineEntry.inOrder_sorted hnumbers, LineEntry.forall₂_retime 0.0 _, rfl⟩
  · have hsame := LayeredBeat.removeLine_of_packed hpacked hi
    refine ⟨hsame, fun c text tone gesture => ?_⟩
    rw [LayeredBeat.removeLine_appendLine, hsame]

/-- Two lines share an id and two a start, and none is where it was authored; of the others one
follows the other. -/
theorem removals_agree_quarrel :
    let line (id text : Spelling) (start : Float) : LineEntry Float :=
      ⟨id, "anna", "Anna", text, .angry, start, none⟩
    let b : LayeredBeat Float := ⟨"b", "Quarrel", none, .stageFloor,
      [line "l1" "Stop!" 9.0, line "l2" "No!" 2.0, line "l1" "Go!" 0.5, line "l3" "Why?" 2.0],
      [], []⟩
    let c : LayeredBeat Float := ⟨"c", "Peace", none, .stageFloor,
      [line "l1" "Well." 0.0, line "l2" "Yes." 1.346153846153846], [], []⟩
    (LayeredBeat.shape.Admits b ∧ (b.removeLine "l1").removeLine "l1" = b.removeLine "l1" ∧
      (b.removeLine "l1").removeLine "l2" = (b.removeLine "l2").removeLine "l1") ∧
    LayeredBeat.shape.Admits c ∧ LineEntry.Packed c.lines ∧ (∀ l ∈ c.lines, l.id ≠ "l3") ∧
      c.removeLine "l3" = c ∧
      ∀ e text tone gesture,
        (c.appendLine e text tone gesture (some "l3")).removeLine "l3" = c := by
  intro line b c
  have hb : LayeredBeat.shape.Admits b := LayeredBeat.admits_shape_iff.2 (by decide)
  have hc : LayeredBeat.shape.Admits c := LayeredBeat.admits_shape_iff.2 (by decide)
  have hpacked : LineEntry.Packed c.lines := by decide +kernel
  have habsent : ∀ l ∈ c.lines, l.id ≠ "l3" := by decide
  obtain ⟨-, hidem, hcomm, -⟩ := removals_agree b hb "l1" "l2"
  obtain ⟨hsame, happended⟩ := (removals_agree c hc "l3" "l1").2.2.2 hpacked habsent
  exact ⟨⟨hb, hidem, hcomm⟩, hc, hpacked, habsent, hsame, happended⟩

end Promptbook
