import Promptbook.Layered.Edit
import Promptbook.Proofs.Layered.Own

/-!
# What an appended line changes

A line that is appended becomes the last line of the flattened beat.  Mood and gesture of a part
are read off the first of a character's lines, so that a further line changes no part of a
character who speaks already.  A new speaker is involved before all who only act or walk; this
moves their ranks, and a rank shows only where neither a line fixes it nor a walk leads.
-/

namespace Promptbook

variable {α : Type}

/-- A character's lines count by the first of them. -/
theorem LineEntry.mood_congr {ls ls' : List (LineEntry α)} (h : ls'.head? = ls.head?) :
    mood ls' = mood ls := by
  rw [mood, mood, h]

theorem gestureOf?_congr {ls ls' : List (LineEntry α)} (h : ls'.head? = ls.head?)
    (gs : List (GestureEntry α)) : gestureOf? ls' gs = gestureOf? ls gs := by
  rw [gestureOf?, gestureOf?, LineEntry.firstGesture?, LineEntry.firstGesture?, h]

namespace LayeredBeat

/-- The beat with a line more, behind all the others. -/
def withLine (b : LayeredBeat α) (l : LineEntry α) : LayeredBeat α :=
  { b with lines := b.lines ++ [l] }

variable {b : LayeredBeat α} {l : LineEntry α} {id : Spelling}

theorem linesOf_ne_nil_iff : b.linesOf id ≠ [] ↔ id ∈ b.lines.map (·.characterId) := by
  simp [linesOf, List.filter_eq_nil_iff]

theorem mentioned_withLine : (b.withLine l).mentioned =
    b.lines.map (·.characterId) ++ [l.characterId] ++
      (b.gestures.map (·.characterId) ++ b.walks.map (·.characterId)) := by
  simp [mentioned, withLine]

/-- A line mentions nobody but its speaker. -/
theorem mem_mentioned_withLine (h : id ≠ l.characterId) :
    id ∈ (b.withLine l).mentioned ↔ id ∈ b.mentioned := by
  rw [mentioned_withLine, mentioned]
  simp [h]

theorem linesOf_withLine : (b.withLine l).linesOf id =
    b.linesOf id ++ if l.characterId = id then [l] else [] := by
  rw [linesOf, withLine, List.filter_append, linesOf]
  congr 1
  by_cases h : l.characterId = id <;> simp [h]

theorem head?_linesOf_withLine (h : id ≠ l.characterId ∨ b.linesOf l.characterId ≠ []) :
    ((b.withLine l).linesOf id).head? = (b.linesOf id).head? := by
  rw [linesOf_withLine]
  split_ifs with hid
  · subst hid
    exact List.head?_append_of_ne_nil _ (h.resolve_left fun hne => hne rfl)
  · rw [List.append_nil]

/-- Who speaks already is involved as before. -/
theorem involved_withLine (h : b.linesOf l.characterId ≠ []) :
    (b.withLine l).involved = b.involved := by
  have hspeaks : [l.characterId] ⊆ b.lines.map (·.characterId) :=
    List.forall_mem_singleton.2 (linesOf_ne_nil_iff.1 h)
  rw [involved, mentioned_withLine, eraseDups_append_of_subset hspeaks, ← List.append_assoc]
  rfl

/-- Who speaks keeps its rank when somebody else gets a line. -/
theorem rank_withLine (h : b.linesOf id ≠ []) : (b.withLine l).rank id = b.rank id := by
  have hid := linesOf_ne_nil_iff.1 h
  rw [rank, rank, involved, involved, mentioned_withLine, mentioned, List.append_assoc,
    List.append_assoc, idxOf_eraseDups_append _ hid, idxOf_eraseDups_append _ hid]

variable [Measure α]

/-- At one rank, nobody's part changes but that of a new speaker. -/
theorem part_withLine (rank : Nat) {c : Character}
    (h : c.id ≠ l.characterId ∨ b.linesOf l.characterId ≠ []) :
    (b.withLine l).part rank c = b.part rank c := by
  have hhead := head?_linesOf_withLine h
  change { b.part rank c with
    emotion := ⟨LineEntry.mood ((b.withLine l).linesOf c.id), 0.7⟩
    gesture := (gestureOf? ((b.withLine l).linesOf c.id) (b.gesturesOf c.id)).map
      fun k => ⟨k, none⟩ } = b.part rank c
  rw [LineEntry.mood_congr hhead, gestureOf?_congr hhead]
  rfl

/-- A further line of somebody who speaks already changes no part. -/
theorem parts_withLine (d : Directory) (h : b.linesOf l.characterId ≠ []) :
    (b.withLine l).parts d = b.parts d := by
  rw [parts, parts, involved_withLine h]
  refine List.filterMap_congr fun ⟨id, rank⟩ _ => ?_
  exact congrArg (Option.map · (d.lookup? id)) (funext fun _ => part_withLine rank (.inr h))

/-- The part of another character keeps all but its movement, and that as well when the character
speaks or walks. -/
theorem partOf?_withLine {d : Directory} (h : id ≠ l.characterId) {p : Part α}
    (hp : (b.flatten d).partOf? id = some p) :
    ∃ m, ((b.withLine l).flatten d).partOf? id = some { p with movement := m } ∧
      (b.linesOf id ≠ [] ∨ b.walksOf id ≠ [] → m = p.movement) := by
  have hmem : id ∈ b.mentioned := by
    by_contra hmem
    rw [partOf?_flatten_of_notMem d hmem] at hp
    cases hp
  rw [partOf?_flatten_of_mem d hmem, Option.map_eq_some_iff] at hp
  obtain ⟨c, hc, rfl⟩ := hp
  obtain rfl := Directory.id_of_lookup? hc
  refine ⟨(b.part ((b.withLine l).rank c.id) c).movement, ?_, ?_⟩
  · rw [partOf?_flatten_of_mem d ((mem_mentioned_withLine h).2 hmem), hc, Option.map_some,
      part_withLine _ (.inl h)]
    rfl
  · rintro (hspeaks | hwalks)
    · rw [rank_withLine hspeaks]
    · exact WalkEntry.movement_congr (timedWalksOf_ne_nil_iff.2 hwalks) _ _

theorem partOf?_withLine_eq_none_iff {d : Directory} (h : id ≠ l.characterId) :
    ((b.withLine l).flatten d).partOf? id = none ↔ (b.flatten d).partOf? id = none := by
  rw [partOf?_flatten_eq_none_iff, partOf?_flatten_eq_none_iff, mem_mentioned_withLine h]

end LayeredBeat

/-- Appending a line disturbs nobody else.  The flattened beat ends with the new line behind all
the others.  If its speaker has a line already, all parts stay as they are, in their order; and in
any case every other character has a part in the new beat just if it has one in the old, the same
but for its movement, and the very same if it speaks or walks. -/
theorem flatten_appendLine [Measure α] (b : LayeredBeat α) (d : Directory) (c : Character)
    (text : Spelling) (tone : Tone) (gesture : Option LineGesture) (id : Option Spelling) :
    let b' := b.appendLine c text tone gesture id
    (b'.flatten d).layers.lines = (b.flatten d).layers.lines ++
      [⟨id.getD freshId, c.id, text, tone.mood, b.nextLineStart, usualTypingSpeed⟩] ∧
    (b.linesOf c.id ≠ [] → (b'.flatten d).layers.parts = (b.flatten d).layers.parts) ∧
    ∀ e ≠ c.id, ((b'.flatten d).partOf? e = none ↔ (b.flatten d).partOf? e = none) ∧
      ∀ p, (b.flatten d).partOf? e = some p →
        ∃ m, (b'.flatten d).partOf? e = some { p with movement := m } ∧
          (b.linesOf e ≠ [] ∨ b.walksOf e ≠ [] → m = p.movement) := by
  intro b'
  let l : LineEntry α := ⟨id.getD freshId, c.id, c.name, text, tone, b.nextLineStart, gesture⟩
  have hb' : b' = b.withLine l := rfl
  rw [hb']
  refine ⟨List.map_append, fun h => ?_, fun e he => ⟨?_, fun p => ?_⟩⟩
  · exact LayeredBeat.parts_withLine (l := l) d h
  · exact LayeredBeat.partOf?_withLine_eq_none_iff he
  · exact LayeredBeat.partOf?_withLine he

/-- Ben only bows, and moves from the left to the center when Anna gets a line. -/
example :
    let b : LayeredBeat Float :=
      ⟨"b", "Bow", some 4.0, .stageFloor, [], [⟨"g", "ben", .bow, 0.0, none⟩], []⟩
    let d : Directory := [⟨"anna", "Anna", .female⟩, ⟨"ben", "Ben", .male⟩]
    let b' := b.appendLine ⟨"anna", "Anna", .female⟩ "Bravo!" .happy none none
    ((b.flatten d).partOf? "ben").map (·.movement) = some (.stayAt Landmark.left.place) ∧
      ((b'.flatten d).partOf? "ben").map (·.movement) = some (.stayAt Landmark.center.place) := by
  decide +kernel

end Promptbook
