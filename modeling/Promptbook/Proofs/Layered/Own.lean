import Promptbook.Proofs.Edit.Standing

/-!
# What a character's part depends on

The part of a character in a flattened beat reads the character's own entries and its rank among
the characters involved, and the rank only where no walk places the character.  The walks of all
characters are sorted together by their starts, and each character's are picked from the sorted
list.  The sort is stable, so that picking them before comes to the same; and it is determined by
the entries that share a start, in their order.  So it does not matter how the walks of several
characters are interleaved, nor in which order entries with different starts are listed.
-/

namespace Promptbook

/-! ## Walks in another order -/

namespace WalkEntry

section Measure

variable {α : Type} [Measure α]

/-- Whether a walk starts at a time. -/
def StartsAt (t : α) (w : WalkEntry α) : Prop := ¬ w.start < t ∧ ¬ t < w.start

instance (t : α) (w : WalkEntry α) : Decidable (w.StartsAt t) :=
  inferInstanceAs (Decidable (_ ∧ _))

/-- Whether some walks are others in another order, which keeps the order of those that start at
the same time. -/
structure Rearranged (ws vs : List (WalkEntry α)) : Prop where
  perm : vs.Perm ws
  order : ∀ w ∈ ws, (vs.filter fun v => v.StartsAt w.start) = ws.filter fun v => v.StartsAt w.start

omit [Measure α] in
/-- Where walks lead a character, it does not matter where it would stand without them. -/
theorem movement_congr {ws : List (WalkEntry α)} (h : ws ≠ []) (p q : Place α) :
    movement p ws = movement q ws := by
  rcases ws with _ | ⟨w, _ | ⟨v, ws⟩⟩
  · exact absurd rfl h
  · rfl
  · rfl

theorem Rearranged.refl (ws : List (WalkEntry α)) : Rearranged ws ws := ⟨.refl ws, fun _ _ => rfl⟩

end Measure

variable {ws vs : List (WalkEntry Float)}

theorem startsAt_iff_key {t : Float} (ht : t.isNaN = false) {w : WalkEntry Float}
    (hw : w.start.isNaN = false) : w.StartsAt t ↔ Double.key w.start = Double.key t := by
  rw [StartsAt, Double.lt_iff_key hw, Double.lt_iff_key ht, not_lt, not_lt, and_comm]
  exact le_antisymm_iff.symm

/-- Walks are in one order of starts, however they are arranged. -/
theorem Rearranged.mergeSort_eq (h : Rearranged ws vs) (hws : ∀ w ∈ ws, w.start.isNaN = false) :
    (vs.mergeSort fun w v => decide ¬ v.start < w.start) =
      ws.mergeSort fun w v => decide ¬ v.start < w.start := by
  have hvs : ∀ v ∈ vs, v.start.isNaN = false := fun v hv => hws v (h.perm.mem_iff.1 hv)
  rw [Double.mergeSort_eq_key hws, Double.mergeSort_eq_key hvs]
  refine mergeSort_eq_of_filter_key fun k => ?_
  by_cases hk : ∃ w ∈ ws, Double.key w.start = k
  · obtain ⟨w, hw, rfl⟩ := hk
    have hlevel : ∀ us : List (WalkEntry Float), (∀ u ∈ us, u.start.isNaN = false) →
        (us.filter fun u => Double.key u.start = Double.key w.start) =
          us.filter fun u => u.StartsAt w.start := fun us hus =>
      List.filter_congr fun u hu =>
        decide_eq_decide.2 (startsAt_iff_key (hws w hw) (hus u hu)).symm
    rw [hlevel vs hvs, hlevel ws hws, h.order w hw]
  · have hnone : ∀ us : List (WalkEntry Float), us ⊆ ws →
        (us.filter fun u => Double.key u.start = k) = [] := fun us hus =>
      List.filter_eq_nil_iff.2 fun u hu huk => hk ⟨u, hus hu, of_decide_eq_true huk⟩
    rw [hnone vs h.perm.subset, hnone ws (List.Subset.refl ws)]

/-- Walks that all start at different times may be listed in any order. -/
theorem rearranged_of_perm (h : vs.Perm ws) (hws : ∀ w ∈ ws, w.start.isNaN = false)
    (hapart : ws.Pairwise fun w v => w.start < v.start ∨ v.start < w.start) :
    Rearranged ws vs where
  perm := h
  order w hw := by
    have hperm := h.filter fun v => decide (v.StartsAt w.start)
    -- At most one walk starts at a time.
    rcases hfilter : ws.filter (fun v => v.StartsAt w.start) with _ | ⟨u, _ | ⟨v, us⟩⟩
    · rw [hfilter] at hperm ⊢
      exact hperm.eq_nil
    · rw [hfilter] at hperm ⊢
      exact List.perm_singleton.1 hperm
    · have hlevel : ∀ x ∈ u :: v :: us, x.start.isNaN = false ∧
          Double.key x.start = Double.key w.start := by
        intro x hx
        rw [← hfilter, List.mem_filter] at hx
        have hnumber := hws x hx.1
        exact ⟨hnumber, (startsAt_iff_key (hws w hw) hnumber).1 (of_decide_eq_true hx.2)⟩
      have huv := hapart.filter fun v => decide (v.StartsAt w.start)
      rw [hfilter, List.pairwise_cons] at huv
      obtain ⟨hu, hkeyu⟩ := hlevel u (by simp)
      obtain ⟨hv, hkeyv⟩ := hlevel v (by simp)
      have := huv.1 v (by simp)
      rw [Double.lt_iff_key hu, Double.lt_iff_key hv, hkeyu, hkeyv, or_self] at this
      exact absurd this (lt_irrefl _)

end WalkEntry

/-! ## Directories that know more -/

/-- A directory to which characters were added that a list of ids does not name, or whose ids
stand further in front already. -/
inductive Directory.Grown (ids : List Spelling) (d : Directory) : Directory → Prop
  | refl : Grown ids d d
  | add {front back : Directory} (h : Grown ids d (front ++ back)) {c : Character}
    (hc : c.id ∉ ids ∨ ∃ e ∈ front, e.id = c.id) : Grown ids d (front ++ c :: back)

theorem Directory.lookup?_append (front back : Directory) (id : Spelling) :
    lookup? (front ++ back) id = (lookup? front id).or (lookup? back id) := List.find?_append

/-- What a grown directory adds is never found by the ids that are named. -/
theorem Directory.Grown.lookup?_eq {ids : List Spelling} {d d' : Directory} (h : Grown ids d d')
    {id : Spelling} (hid : id ∈ ids) : d'.lookup? id = d.lookup? id := by
  induction h with
  | refl => rfl
  | @add front back _ c hc ih =>
    rw [← ih, lookup?_append, lookup?_append, lookup?_cons]
    split_ifs with hcid
    · obtain ⟨e, he, hec⟩ := hc.resolve_left fun hnew => hnew (hcid ▸ hid)
      have hfound : lookup? front id ≠ none := fun hnone =>
        lookup?_eq_none_iff.1 hnone e he (hec.trans hcid)
      obtain ⟨f, hf⟩ := Option.ne_none_iff_exists'.1 hfound
      rw [hf, Option.some_or, Option.some_or]
    · rfl

/-! ## The part of a character -/

namespace LayeredBeat

section Measure

variable {α : Type} {b b' : LayeredBeat α} {d d' : Directory} {id : Spelling}

theorem mem_mentioned_iff :
    id ∈ b.mentioned ↔ b.linesOf id ≠ [] ∨ b.gesturesOf id ≠ [] ∨ b.walksOf id ≠ [] := by
  simp [mentioned, linesOf, gesturesOf, walksOf, List.filter_eq_nil_iff]

/-- Who speaks or makes a gesture has a rank that the walks do not change. -/
theorem rank_eq_of_lines_of_gestures (hlines : b'.lines = b.lines)
    (hgestures : b'.gestures = b.gestures) (h : b.linesOf id ≠ [] ∨ b.gesturesOf id ≠ []) :
    b'.rank id = b.rank id := by
  have hid : id ∈ b.lines.map (·.characterId) ++ b.gestures.map (·.characterId) := by
    simpa [linesOf, gesturesOf, List.filter_eq_nil_iff] using h
  rw [rank, rank, involved, involved, mentioned, mentioned, hlines, hgestures,
    idxOf_eraseDups_append _ hid, idxOf_eraseDups_append _ hid]

variable [Measure α]

theorem timedWalksOf_ne_nil_iff : b.timedWalksOf id ≠ [] ↔ b.walksOf id ≠ [] := by
  rw [← List.length_pos_iff, ← List.length_pos_iff, (b.timedWalksOf_perm id).length_eq]

theorem partOf?_flatten_of_mem (d : Directory) (h : id ∈ b.mentioned) :
    (b.flatten d).partOf? id = (d.lookup? id).map (b.part (b.rank id)) := b.find?_parts h

theorem partOf?_flatten_of_notMem (d : Directory) (h : id ∉ b.mentioned) :
    (b.flatten d).partOf? id = none := by
  refine List.find?_eq_none.2 fun p hp hid => ?_
  obtain ⟨c, hc, rfl⟩ := (b.mem_parts_iff d).1 hp
  have hid : c.id = id := eq_of_beq hid
  exact h (hid ▸ ((b.mem_known_iff d).1 hc).1)

theorem partOf?_flatten_eq_none_iff (d : Directory) :
    (b.flatten d).partOf? id = none ↔ (id ∈ b.mentioned → d.Lacks id) := by
  by_cases h : id ∈ b.mentioned
  · rw [partOf?_flatten_of_mem d h, Option.map_eq_none_iff, Directory.lookup?_eq_none_iff]
    exact ⟨fun hd _ => hd, fun hd => hd h⟩
  · exact iff_of_true (partOf?_flatten_of_notMem d h) fun hid => absurd hid h

/-- A part is made from a character's own entries and, where no walk places it, from its rank. -/
theorem partOf?_flatten_congr (hd : d'.lookup? id = d.lookup? id)
    (hlines : b'.linesOf id = b.linesOf id) (hgestures : b'.gesturesOf id = b.gesturesOf id)
    (htimed : b'.timedWalksOf id = b.timedWalksOf id)
    (hrank : b'.rank id = b.rank id ∨ b.walksOf id ≠ []) :
    (b'.flatten d').partOf? id = (b.flatten d).partOf? id := by
  have hwalks : b'.walksOf id ≠ [] ↔ b.walksOf id ≠ [] := by
    rw [← timedWalksOf_ne_nil_iff, ← timedWalksOf_ne_nil_iff, htimed]
  by_cases hid : id ∈ b.mentioned
  · have hid' : id ∈ b'.mentioned := by
      rwa [mem_mentioned_iff, hlines, hgestures, hwalks, ← mem_mentioned_iff]
    rw [partOf?_flatten_of_mem d hid, partOf?_flatten_of_mem d' hid', hd]
    cases hc : d.lookup? id with
    | none => rfl
    | some c =>
      obtain rfl := Directory.id_of_lookup? hc
      rw [Option.map_some, Option.map_some, part, part, hlines, hgestures, htimed]
      rcases hrank with hrank | hne
      · rw [hrank]
      · rw [WalkEntry.movement_congr (timedWalksOf_ne_nil_iff.2 hne) _ (placement (b.rank c.id))]
  · have hid' : id ∉ b'.mentioned := by
      rwa [mem_mentioned_iff, hlines, hgestures, hwalks, ← mem_mentioned_iff]
    rw [partOf?_flatten_of_notMem d hid, partOf?_flatten_of_notMem d' hid']

end Measure

variable {b b' : LayeredBeat Float}

/-- However the walks of the others lie between a character's own, it has them in one order. -/
theorem Valid.timedWalksOf_eq_of_rearranged (hb : b.Valid)
    (hb' : ∀ w ∈ b'.walks, w.start.isNaN = false) {id : Spelling}
    (h : WalkEntry.Rearranged (b.walksOf id) (b'.walksOf id)) :
    b'.timedWalksOf id = b.timedWalksOf id := by
  rw [timedWalksOf_eq hb', timedWalksOf_eq fun w hw => (hb.isNaN_walks hw).1]
  exact h.mergeSort_eq fun w hw => (hb.isNaN_walksOf hw).1

/-- Where each character has its own walks, there are no walks but these. -/
theorem mem_walks_of_rearranged (h : ∀ id, WalkEntry.Rearranged (b.walksOf id) (b'.walksOf id))
    {w : WalkEntry Float} (hw : w ∈ b'.walks) : w ∈ b.walks := by
  have hown : w ∈ b'.walksOf w.characterId := List.mem_filter.2 ⟨hw, beq_self_eq_true _⟩
  exact List.mem_of_mem_filter ((h w.characterId).perm.subset hown)

/-- Nobody's part changes when each character keeps its own walks but for the order of those with
different starts, and the directory only grows. -/
theorem Valid.partOf?_flatten_of_rearranged (hb : b.Valid) {ws : List (WalkEntry Float)}
    (hws : ∀ id, WalkEntry.Rearranged (b.walksOf id)
      (LayeredBeat.walksOf { b with walks := ws } id))
    {d d' : Directory} (hd : Directory.Grown b.mentioned d d') (id : Spelling) :
    (LayeredBeat.flatten { b with walks := ws } d').partOf? id = (b.flatten d).partOf? id := by
  have hnumbers : ∀ w ∈ ws, w.start.isNaN = false := fun w hw =>
    (hb.isNaN_walks (mem_walks_of_rearranged hws hw)).1
  have htimed := hb.timedWalksOf_eq_of_rearranged hnumbers (hws id)
  by_cases hid : id ∈ b.mentioned
  · refine partOf?_flatten_congr (hd.lookup?_eq hid) rfl rfl htimed ?_
    by_cases hwalks : b.walksOf id = []
    · -- Without a walk, the character is mentioned before all walks.
      have hfront : b.linesOf id ≠ [] ∨ b.gesturesOf id ≠ [] :=
        (or_assoc.2 (mem_mentioned_iff.1 hid)).resolve_right (not_not.2 hwalks)
      exact .inl (rank_eq_of_lines_of_gestures rfl rfl hfront)
    · exact .inr hwalks
  · have hid' : id ∉ LayeredBeat.mentioned { b with walks := ws } := by
      rw [mem_mentioned_iff] at hid ⊢
      rwa [← timedWalksOf_ne_nil_iff, htimed, timedWalksOf_ne_nil_iff]
    rw [partOf?_flatten_of_notMem d hid, partOf?_flatten_of_notMem d' hid']

end LayeredBeat

/-- The part of a character depends only on its own entries, although the walks of all characters
are sorted together.  It is the same in two beats, under two directories, when both directories
know the same first character by its id, its lines and its gestures are the same, its walks are the
same but for the order of those with different starts, and it has the same rank among the ids
involved or at least one walk.  In particular nobody's part changes when the walks of different
characters are interleaved in another way, when walks that all start at different times are listed
in another order, or when the directory grows by characters that are not named or come after others
with the same id. -/
theorem partOf?_of_own_entries (b : LayeredBeat Float) (hb : LayeredBeat.shape.Admits b)
    (d : Directory) :
    (∀ b' : LayeredBeat Float, LayeredBeat.shape.Admits b' → ∀ (d' : Directory) (id : Spelling),
      d'.lookup? id = d.lookup? id → b'.linesOf id = b.linesOf id →
      b'.gesturesOf id = b.gesturesOf id →
      WalkEntry.Rearranged (b.walksOf id) (b'.walksOf id) →
      b'.rank id = b.rank id ∨ b.walksOf id ≠ [] →
      (b'.flatten d').partOf? id = (b.flatten d).partOf? id) ∧
    (∀ ws, (∀ id, LayeredBeat.walksOf { b with walks := ws } id = b.walksOf id) →
      ∀ id, (LayeredBeat.flatten { b with walks := ws } d).partOf? id =
        (b.flatten d).partOf? id) ∧
    (∀ ws, ws.Perm b.walks → b.walks.Pairwise (fun w v => w.start < v.start ∨ v.start < w.start) →
      ∀ id, (LayeredBeat.flatten { b with walks := ws } d).partOf? id =
        (b.flatten d).partOf? id) ∧
    ∀ d', Directory.Grown b.mentioned d d' →
      ∀ id, (b.flatten d').partOf? id = (b.flatten d).partOf? id := by
  have hvalid := LayeredBeat.admits_shape_iff.1 hb
  have hsame : ∀ id, WalkEntry.Rearranged (b.walksOf id) (b.walksOf id) := fun id => .refl _
  refine ⟨fun b' hb' d' id hd hlines hgestures hwalks hrank => ?_, fun ws hws => ?_,
    fun ws hperm hapart => ?_, fun d' hd => ?_⟩
  · have hvalid' := LayeredBeat.admits_shape_iff.1 hb'
    refine LayeredBeat.partOf?_flatten_congr hd hlines hgestures ?_ hrank
    exact hvalid.timedWalksOf_eq_of_rearranged (fun w hw => (hvalid'.isNaN_walks hw).1) hwalks
  · refine hvalid.partOf?_flatten_of_rearranged (fun id => ?_) .refl
    rw [hws id]
    exact hsame id
  · refine hvalid.partOf?_flatten_of_rearranged (fun id => ?_) .refl
    exact WalkEntry.rearranged_of_perm (hperm.filter _)
      (fun w hw => (hvalid.isNaN_walksOf hw).1) (hapart.filter _)
  · exact hvalid.partOf?_flatten_of_rearranged hsame hd

/-- Ben gets a line, and his walk comes first; Anna's walks are listed in another order, but for the
two that start together, and her namesake joins the cast. -/
theorem partOf?_of_own_entries_crossing :
    let walk (id : Spelling) (x start finish : Float) : WalkEntry Float :=
      ⟨"w", id, none, ⟨x, 0.5⟩, start, finish, true, none⟩
    let b : LayeredBeat Float := ⟨"b", "Crossing", some 4.0, .stageFloor, [], [],
      [walk "anna" 0.2 0.0 1.0, walk "ben" 0.5 0.0 1.0, walk "anna" 0.8 2.0 3.0,
        walk "anna" 0.4 2.0 2.5]⟩
    let b' : LayeredBeat Float := ⟨"c", "Meeting", none, .park,
      [⟨"l", "ben", "Ben", "Anna?", .surprised, 0.0, none⟩], [],
      [walk "ben" 0.9 1.0 2.0, walk "anna" 0.8 2.0 3.0, walk "anna" 0.4 2.0 2.5,
        walk "anna" 0.2 0.0 1.0]⟩
    let d : Directory := [⟨"anna", "Anna", .female⟩]
    let d' : Directory :=
      [⟨"ben", "Ben", .male⟩, ⟨"anna", "Anna", .female⟩, ⟨"anna", "Anton", .male⟩]
    LayeredBeat.shape.Admits b ∧ LayeredBeat.shape.Admits b' ∧
      d'.lookup? "anna" = d.lookup? "anna" ∧
      b'.linesOf "anna" = b.linesOf "anna" ∧ b'.gesturesOf "anna" = b.gesturesOf "anna" ∧
      WalkEntry.Rearranged (b.walksOf "anna") (b'.walksOf "anna") ∧ b.walksOf "anna" ≠ [] ∧
      (b'.flatten d').partOf? "anna" = (b.flatten d).partOf? "anna" := by
  intro walk b b' d d'
  have hb : LayeredBeat.shape.Admits b := LayeredBeat.admits_shape_iff.2 (by decide)
  have hb' : LayeredBeat.shape.Admits b' := LayeredBeat.admits_shape_iff.2 (by decide)
  have hwalks : WalkEntry.Rearranged (b.walksOf "anna") (b'.walksOf "anna") :=
    ⟨by decide, by decide⟩
  have hne : b.walksOf "anna" ≠ [] := by decide
  exact ⟨hb, hb', rfl, rfl, rfl, hwalks, hne,
    (partOf?_of_own_entries b hb d).1 b' hb' d' "anna" rfl rfl rfl hwalks (.inr hne)⟩

end Promptbook
