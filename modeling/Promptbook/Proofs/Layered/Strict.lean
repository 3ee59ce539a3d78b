import Promptbook.Proofs.Scene.Compiled
import Promptbook.Proofs.Trip.Mention

/-!
# Flattening with regard to unknown characters

Flattening strictly differs from flattening in one respect only: where a layer names a character
that the directory lacks, there is a report instead of a beat.  What the report says is stated
without the order in which the ids are collected, by the place at which each id is first named in
the three layers; of several beats the first with such an id is reported.
-/

namespace Promptbook

variable {α : Type}

/-- What a report tells of the characters of a beat that a directory lacks: each of them once, in
the order in which the layers first name them. -/
structure UnknownCharacters.Reports (b : LayeredBeat α) (d : Directory) (u : UnknownCharacters) :
    Prop where
  beatId : u.beatId = b.id
  mem_ids_iff : ∀ id, id ∈ u.ids ↔ id ∈ b.mentioned ∧ d.Lacks id
  nodup : u.ids.Nodup
  ordered : u.ids.Pairwise fun id id' => b.mentioned.idxOf id < b.mentioned.idxOf id'

namespace LayeredBeat

variable (b : LayeredBeat α) (d : Directory)

/-- Whether a directory has all characters that a beat names. -/
def Resolved : Prop := ∀ id ∈ b.mentioned, ¬ d.Lacks id

instance : Decidable (b.Resolved d) :=
  inferInstanceAs (Decidable (∀ id ∈ b.mentioned, ¬ d.Lacks id))

theorem not_resolved_iff : ¬ b.Resolved d ↔ ∃ id ∈ b.mentioned, d.Lacks id := by
  simp [Resolved]

theorem mem_unresolved_iff {id : Spelling} :
    id ∈ b.unresolved d ↔ id ∈ b.mentioned ∧ d.Lacks id := by
  rw [unresolved, List.mem_filter, mem_involved, Option.isNone_iff_eq_none,
    Directory.lookup?_eq_none_iff]

theorem unresolved_eq_nil_iff : b.unresolved d = [] ↔ b.Resolved d := by
  rw [List.eq_nil_iff_forall_not_mem]
  refine forall_congr' fun id => ?_
  rw [mem_unresolved_iff, not_and]

theorem reports_unresolved : (⟨b.id, b.unresolved d⟩ : UnknownCharacters).Reports b d where
  beatId := rfl
  mem_ids_iff _ := b.mem_unresolved_iff d
  nodup := b.nodup_involved.filter _
  ordered := (pairwise_idxOf_eraseDups b.mentioned).filter _

variable {b d} [Measure α]

theorem flattenStrict_of_resolved (h : b.Resolved d) : b.flattenStrict d = .ok (b.flatten d) := by
  rw [flattenStrict, (b.unresolved_eq_nil_iff d).2 h]
  rfl

theorem flattenStrict_of_not_resolved (h : ¬ b.Resolved d) :
    b.flattenStrict d = .error ⟨b.id, b.unresolved d⟩ := by
  rw [flattenStrict, if_neg]
  rwa [List.isEmpty_iff, unresolved_eq_nil_iff]

theorem exists_flattenStrict_eq_error_iff :
    (∃ u, b.flattenStrict d = .error u) ↔ ¬ b.Resolved d := by
  constructor
  · rintro ⟨u, hu⟩ h
    rw [flattenStrict_of_resolved h] at hu
    cases hu
  · exact fun h => ⟨_, flattenStrict_of_not_resolved h⟩

theorem reports_of_flattenStrict {u : UnknownCharacters} (h : b.flattenStrict d = .error u) :
    u.Reports b d := by
  rw [flattenStrict_of_not_resolved (exists_flattenStrict_eq_error_iff.1 ⟨u, h⟩)] at h
  rw [← Except.error.inj h]
  exact b.reports_unresolved d

theorem eq_flatten_of_flattenStrict {c : Beat α} (h : b.flattenStrict d = .ok c) :
    c = b.flatten d := by
  by_cases hb : b.Resolved d
  · rw [flattenStrict_of_resolved hb] at h
    exact (Except.ok.inj h).symm
  · rw [flattenStrict_of_not_resolved hb] at h
    cases h

theorem flattenAll_of_resolved {bs : List (LayeredBeat α)} (h : ∀ b ∈ bs, b.Resolved d) :
    flattenAll true bs d = .ok (bs.map (·.flatten d)) := by
  refine mapM_eq_ok_iff.2 (List.forall₂_map_right_iff.2 (List.forall₂_same.2 ?_))
  exact fun b hb => flattenStrict_of_resolved (h b hb)

/-- The first beat with an unknown character is reported for the whole list. -/
theorem flattenAll_of_not_resolved {before after : List (LayeredBeat α)}
    (hbefore : ∀ b ∈ before, b.Resolved d) (h : ¬ b.Resolved d) :
    flattenAll true (before ++ b :: after) d = .error ⟨b.id, b.unresolved d⟩ :=
  mapM_append_cons_eq_error after (fun b hb => ⟨_, flattenStrict_of_resolved (hbefore b hb)⟩)
    (flattenStrict_of_not_resolved h)

end LayeredBeat

/-- Strict flattening fails exactly where a layer names a character that the directory lacks.  The
failure reports these characters, and otherwise the beat is the one that plain flattening gives.
For several beats it gives all of them, or else the report on the first beat that has one. -/
theorem flattenStrict_reports [Measure α] (d : Directory) :
    (∀ b : LayeredBeat α,
      ((∃ u, b.flattenStrict d = .error u) ↔ ∃ id ∈ b.mentioned, d.Lacks id) ∧
      (∀ u, b.flattenStrict d = .error u → u.Reports b d) ∧
      ∀ c, b.flattenStrict d = .ok c → c = b.flatten d) ∧
    ∀ bs : List (LayeredBeat α),
      ((∀ b ∈ bs, b.Resolved d) → LayeredBeat.flattenAll true bs d = .ok (bs.map (·.flatten d))) ∧
      ∀ before b after, bs = before ++ b :: after → (∀ b ∈ before, b.Resolved d) →
        ¬ b.Resolved d → ∃ u, b.flattenStrict d = .error u ∧
          LayeredBeat.flattenAll true bs d = .error u := by
  refine ⟨fun b => ⟨?_, fun u => ?_, fun c => ?_⟩, fun bs => ⟨?_, ?_⟩⟩
  · rw [LayeredBeat.exists_flattenStrict_eq_error_iff, LayeredBeat.not_resolved_iff]
  · exact LayeredBeat.reports_of_flattenStrict
  · exact LayeredBeat.eq_flatten_of_flattenStrict
  · exact LayeredBeat.flattenAll_of_resolved
  · rintro before b after rfl hbefore hb
    exact ⟨_, LayeredBeat.flattenStrict_of_not_resolved hb,
      LayeredBeat.flattenAll_of_not_resolved hbefore hb⟩

/-- A ghost, an owl and a bat haunt the three layers beside a known character; of two beats with
unknown characters the first is reported. -/
theorem flattenStrict_reports_haunting :
    let line (id : Spelling) : LineEntry Float := ⟨"l", id, id, "Boo!", .calm, 0.0, none⟩
    let walk (id : Spelling) : WalkEntry Float := ⟨"w", id, none, ⟨0.5, 0.5⟩, 0.0, 1.0, false, none⟩
    let calm : LayeredBeat Float := ⟨"a", "Dusk", none, .stageFloor, [line "anna"], [], []⟩
    let haunted : LayeredBeat Float := ⟨"b", "Night", none, .stageFloor,
      [line "ghost", line "anna", line "ghost"], [⟨"g", "owl", .wave, 0.0, none⟩],
      [walk "ghost", walk "anna", walk "bat", walk "owl"]⟩
    let rest : LayeredBeat Float := ⟨"c", "Dawn", none, .stageFloor, [line "cock"], [], []⟩
    let d : Directory := [⟨"anna", "Anna", .female⟩]
    ∃ u, haunted.flattenStrict d = .error u ∧ u.Reports haunted d ∧
      u.ids = ["ghost", "owl", "bat"] ∧
      LayeredBeat.flattenAll true [calm, haunted, rest] d = .error u := by
  intro line walk calm haunted rest d
  obtain ⟨hbeat, hbeats⟩ := flattenStrict_reports (α := Float) d
  have hcalm : ∀ b ∈ [calm], b.Resolved d := by decide
  have hhaunted : ¬ haunted.Resolved d := by decide
  obtain ⟨u, hu, hall⟩ :=
    (hbeats [calm, haunted, rest]).2 [calm] haunted [rest] rfl hcalm hhaunted
  refine ⟨u, hu, (hbeat haunted).2.1 u hu, ?_, hall⟩
  rw [LayeredBeat.flattenStrict_of_not_resolved hhaunted] at hu
  rw [← Except.error.inj hu]
  decide

end Promptbook
