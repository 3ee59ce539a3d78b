import Promptbook.Proofs.Edit.Valid
import Promptbook.Proofs.Number.Sorting
import Promptbook.Proofs.Trip.Kept
import Promptbook.Proofs.Trip.Playback

/-!
# Where a character stands

The editor goes on from where the walk led that *ends* last, the earliest in the layer of several.
The flattened beat shows a character where the walk led that *starts* last, the latest of several.
The main statement gives both places for every arrangement of walks, and thereby says when they
are the same: a long walk that goes on while a later one starts and ends keeps them apart.
-/

namespace Promptbook

/-! ## The largest items of a list -/

section Largest

variable {β κ : Type} [LinearOrder κ] {key : β → κ} {xs : List β}

/-- A list has a first item among those with the largest key. -/
theorem exists_first_largest (key : β → κ) (h : xs ≠ []) :
    ∃ us x vs, xs = us ++ x :: vs ∧ (∀ u ∈ us, key u < key x) ∧ ∀ v ∈ vs, key v ≤ key x := by
  induction xs with
  | nil => exact absurd rfl h
  | cons y ys ih =>
    rcases eq_or_ne ys [] with rfl | hys
    · exact ⟨[], y, [], rfl, List.forall_mem_nil _, List.forall_mem_nil _⟩
    · obtain ⟨us, x, vs, rfl, hus, hvs⟩ := ih hys
      rcases lt_or_ge (key y) (key x) with hyx | hyx
      · exact ⟨y :: us, x, vs, rfl, List.forall_mem_cons.2 ⟨hyx, hus⟩, hvs⟩
      · refine ⟨[], y, us ++ x :: vs, rfl, List.forall_mem_nil _, ?_⟩
        rw [List.forall_mem_append, List.forall_mem_cons]
        exact ⟨fun u hu => (hus u hu).le.trans hyx, hyx, fun v hv => (hvs v hv).trans hyx⟩

/-- A list has a last item among those with the largest key. -/
theorem exists_last_largest (key : β → κ) (h : xs ≠ []) :
    ∃ us x vs, xs = us ++ x :: vs ∧ (∀ u ∈ us, key u ≤ key x) ∧ ∀ v ∈ vs, key v < key x := by
  obtain ⟨us, x, vs, hxs, hus, hvs⟩ := exists_first_largest key (List.reverse_ne_nil_iff.2 h)
  refine ⟨vs.reverse, x, us.reverse, ?_, by simpa using hvs, by simpa using hus⟩
  rw [← List.reverse_reverse xs, hxs]
  simp

/-- A stable sort puts the last of the items with the largest key at the end. -/
theorem getLast?_mergeSort {us vs : List β} {x : β} (hus : ∀ u ∈ us, key u ≤ key x)
    (hvs : ∀ v ∈ vs, key v < key x) :
    ((us ++ x :: vs).mergeSort fun a b => decide (key a ≤ key b)).getLast? = some x := by
  have htrans := le_key_trans key
  have htotal := le_key_total key
  induction us with
  | nil =>
    obtain ⟨l₁, l₂, hsort, hrest, hl₁⟩ := List.mergeSort_cons htrans htotal x vs
    -- Whatever is sorted behind the item has no smaller key, so that there is nothing.
    have hl₂ : l₂ = [] := by
      have hsorted := List.pairwise_mergeSort htrans htotal (x :: vs)
      rw [hsort, List.pairwise_append, List.pairwise_cons] at hsorted
      refine List.eq_nil_iff_forall_not_mem.2 fun v hv => ?_
      have hmem : v ∈ vs.mergeSort fun a b => decide (key a ≤ key b) := by
        rw [hrest]
        exact List.mem_append_right _ hv
      exact (hvs v (List.mem_mergeSort.1 hmem)).not_ge (by simpa using hsorted.2.1.1 v hv)
    rw [List.nil_append, hsort, hl₂, List.getLast?_append_cons]
    rfl
  | cons u us ih =>
    rw [List.forall_mem_cons] at hus
    obtain ⟨l₁, l₂, hsort, hrest, hl₁⟩ := List.mergeSort_cons htrans htotal u (us ++ x :: vs)
    have hlast := ih hus.2
    rw [hrest] at hlast
    rw [List.cons_append, hsort]
    rcases List.eq_nil_or_concat' l₂ with rfl | ⟨l, y, rfl⟩
    · -- The item would stand before `u`, though its key is not smaller.
      rw [List.append_nil] at hlast
      have hx := hl₁ x (List.mem_of_getLast? hlast)
      simp [hus.1] at hx
    · obtain rfl : y = x := by simpa using hlast
      exact List.getLast?_eq_some_iff.2 ⟨l₁ ++ u :: l, by simp⟩

end Largest

/-! ## The walks that end last and start last -/

namespace WalkEntry

section Measure

variable {α : Type} [Measure α]

/-- Whether a walk is the one of some walks that ends last, the earliest of several. -/
def EndsLast (ws : List (WalkEntry α)) (w : WalkEntry α) : Prop :=
  ∃ us vs, ws = us ++ w :: vs ∧ (∀ u ∈ us, u.finish < w.finish) ∧ ∀ v ∈ vs, v.finish ≤ w.finish

/-- Whether a walk is the one of some walks that starts last, the latest of several. -/
def StartsLast (ws : List (WalkEntry α)) (w : WalkEntry α) : Prop :=
  ∃ us vs, ws = us ++ w :: vs ∧ (∀ u ∈ us, u.start ≤ w.start) ∧ ∀ v ∈ vs, v.start < w.start

variable {ws : List (WalkEntry α)} {w : WalkEntry α}

/-- A walk stays the latest while no other ends later. -/
theorem foldl_later_eq_self (h : ∀ v ∈ ws, ¬ w.finish < v.finish) :
    ws.foldl (fun best v => if best.finish < v.finish then v else best) w = w := by
  induction ws with
  | nil => rfl
  | cons v ws ih =>
    rw [List.forall_mem_cons] at h
    rw [List.foldl_cons, if_neg h.1]
    exact ih h.2

/-- The editor goes on from the walk that ends last. -/
theorem EndsLast.latest?_eq [Std.LawfulOrderLT α] (h : EndsLast ws w) : latest? ws = some w := by
  obtain ⟨us, vs, rfl, hus, hvs⟩ := h
  have hstay : ∀ v ∈ vs, ¬ w.finish < v.finish := fun v hv => Std.not_lt_of_ge (hvs v hv)
  cases us with
  | nil => exact congrArg some (foldl_later_eq_self hstay)
  | cons u us =>
    have hbest : us.foldl (fun best v => if best.finish < v.finish then v else best) u ∈ u :: us :=
      mem_of_latest? rfl
    rw [List.cons_append, latest?, List.foldl_append, List.foldl_cons, if_pos (hus _ hbest),
      foldl_later_eq_self hstay]

end Measure

variable {ws : List (WalkEntry Float)} {l : WalkEntry Float}

theorem exists_endsLast (hws : ws ≠ []) (h : ∀ w ∈ ws, w.finish.isNaN = false) :
    ∃ e, EndsLast ws e := by
  obtain ⟨us, e, vs, rfl, hus, hvs⟩ := exists_first_largest (fun w => Double.key w.finish) hws
  rw [List.forall_mem_append, List.forall_mem_cons] at h
  obtain ⟨hnus, hne, hnvs⟩ := h
  exact ⟨e, us, vs, rfl, fun u hu => (Double.lt_iff_key (hnus u hu)).2 (hus u hu),
    fun v hv => (Double.le_iff_key (hnvs v hv) hne).2 (hvs v hv)⟩

theorem exists_startsLast (hws : ws ≠ []) (h : ∀ w ∈ ws, w.start.isNaN = false) :
    ∃ l, StartsLast ws l := by
  obtain ⟨us, l, vs, rfl, hus, hvs⟩ := exists_last_largest (fun w => Double.key w.start) hws
  rw [List.forall_mem_append, List.forall_mem_cons] at h
  obtain ⟨hnus, hnl, hnvs⟩ := h
  exact ⟨l, us, vs, rfl, fun u hu => (Double.le_iff_key (hnus u hu) hnl).2 (hus u hu),
    fun v hv => (Double.lt_iff_key (hnvs v hv)).2 (hvs v hv)⟩

/-- In the order of the starts the walk that starts last is at the end. -/
theorem StartsLast.getLast?_mergeSort (hl : StartsLast ws l)
    (h : ∀ w ∈ ws, w.start.isNaN = false) :
    (ws.mergeSort fun w v => decide ¬ v.start < w.start).getLast? = some l := by
  rw [Double.mergeSort_eq_key h]
  obtain ⟨us, vs, rfl, hus, hvs⟩ := hl
  rw [List.forall_mem_append, List.forall_mem_cons] at h
  obtain ⟨hnus, hnl, hnvs⟩ := h
  exact Promptbook.getLast?_mergeSort
    (fun u hu => (Double.le_iff_key (hnus u hu) hnl).1 (hus u hu))
    (fun v hv => (Double.lt_iff_key (hnvs v hv)).1 (hvs v hv))

end WalkEntry

/-! ## The two places -/

namespace LayeredBeat

open WalkEntry (EndsLast StartsLast)

section Measure

variable {α : Type} [Measure α] {b : LayeredBeat α} {c : Spelling}

theorem lastPlace?_of_endsLast [Std.LawfulOrderLT α] {e : WalkEntry α}
    (h : EndsLast (b.walksOf c) e) : b.lastPlace? c = some e.target :=
  congrArg (Option.map _) h.latest?_eq

/-- A walk that is asked for without an origin begins where the character stands. -/
theorem origin_of_addWalk {target : Place α} {start : α} {id : Option Spelling}
    {b' : LayeredBeat α} (h : b.addWalk c target start none id = .ok b') :
    b'.walks.getLast?.bind (·.origin) = b.lastPlace? c := by
  obtain ⟨-, rfl⟩ := b.addWalk_eq_ok_iff.1 h
  rw [withWalk, List.getLast?_concat, Option.bind_some, WalkEntry.origin_departing]
  rfl

/-- A known character is shown where its walks leave it. -/
theorem shownPlace?_flatten {d : Directory} (hmentioned : c ∈ b.mentioned)
    (hknows : d.knows c = true) : (b.flatten d).shownPlace? c = some (b.restingPlace c) := by
  obtain ⟨character, hc⟩ := Option.isSome_iff_exists.1 hknows
  have hpart : (b.flatten d).partOf? c = some (b.part (b.rank c) character) := by
    change (b.parts d).find? _ = _
    rw [b.find?_parts hmentioned, hc, Option.map_some]
  obtain rfl := Directory.id_of_lookup? hc
  rw [Beat.shownPlace?, hpart, Option.map_some, ← Part.shownAt_of_movement rfl]
  exact Part.goal?_of_movement rfl

omit [Measure α] in
theorem mentioned_of_walksOf_ne_nil (h : b.walksOf c ≠ []) : c ∈ b.mentioned := by
  obtain ⟨w, hw⟩ := List.exists_mem_of_ne_nil _ h
  obtain ⟨hwb, hid⟩ := List.mem_filter.1 hw
  rw [← eq_of_beq hid]
  exact List.mem_append_right _ (List.mem_map_of_mem hwb)

end Measure

variable {b : LayeredBeat Float} {c : Spelling}

theorem Valid.isNaN_walks (hb : b.Valid) {w : WalkEntry Float} (hw : w ∈ b.walks) :
    w.start.isNaN = false ∧ w.finish.isNaN = false := Double.isNaN_of_le (hb.walks w hw).ends

theorem Valid.isNaN_walksOf (hb : b.Valid) {w : WalkEntry Float} (hw : w ∈ b.walksOf c) :
    w.start.isNaN = false ∧ w.finish.isNaN = false := hb.isNaN_walks (List.mem_of_mem_filter hw)

/-- It does not matter that the walks of all characters are sorted together: one character's walks
are sorted as if it were alone. -/
theorem timedWalksOf_eq (h : ∀ w ∈ b.walks, w.start.isNaN = false) (c : Spelling) :
    b.timedWalksOf c = (b.walksOf c).mergeSort fun w v => decide ¬ v.start < w.start :=
  Double.filter_mergeSort h _

theorem Valid.restingPlace_of_startsLast (hb : b.Valid) {l : WalkEntry Float}
    (h : StartsLast (b.walksOf c) l) : b.restingPlace c = l.target := by
  rw [restingPlace, timedWalksOf_eq fun w hw => (hb.isNaN_walks hw).1,
    h.getLast?_mergeSort fun w hw => (hb.isNaN_walksOf hw).1]
  rfl

end LayeredBeat

/-- Where the editor lets a character with walks go on and where the flattened beat shows it.  One
walk ends last, the earliest of several that do, and one starts last, the latest of several.  The
editor goes on from the target of the one that ends last, the flattened beat shows the character at
the target of the one that starts last, and these have the same coordinates exactly when the two
targets have.  In particular they are the same place when one walk both ends and starts last. -/
theorem stands_where_shown_iff (b : LayeredBeat Float) (hb : LayeredBeat.shape.Admits b)
    (d : Directory) (c : Spelling) (hc : d.knows c = true) (hw : b.walksOf c ≠ []) :
    (∃ e, WalkEntry.EndsLast (b.walksOf c) e) ∧ (∃ l, WalkEntry.StartsLast (b.walksOf c) l) ∧
    (∀ e l, WalkEntry.EndsLast (b.walksOf c) e → WalkEntry.StartsLast (b.walksOf c) l →
      b.lastPlace? c = some e.target ∧
      (∀ target start id b', b.addWalk c target start none id = .ok b' →
        b'.walks.getLast?.bind (·.origin) = some e.target) ∧
      (b.flatten d).shownPlace? c = some l.target ∧
      ((∃ p q, b.lastPlace? c = some p ∧ (b.flatten d).shownPlace? c = some q ∧
        p.coincides q = true) ↔ e.target.coincides l.target = true)) ∧
    ∀ w, WalkEntry.EndsLast (b.walksOf c) w → WalkEntry.StartsLast (b.walksOf c) w →
      b.lastPlace? c = (b.flatten d).shownPlace? c := by
  have hvalid := LayeredBeat.admits_shape_iff.1 hb
  have hlast : ∀ e, WalkEntry.EndsLast (b.walksOf c) e → b.lastPlace? c = some e.target :=
    fun e he => LayeredBeat.lastPlace?_of_endsLast he
  have hshown : ∀ l, WalkEntry.StartsLast (b.walksOf c) l →
      (b.flatten d).shownPlace? c = some l.target := by
    intro l hl
    rw [LayeredBeat.shownPlace?_flatten (LayeredBeat.mentioned_of_walksOf_ne_nil hw) hc,
      hvalid.restingPlace_of_startsLast hl]
  refine ⟨WalkEntry.exists_endsLast hw fun w hw => (hvalid.isNaN_walksOf hw).2,
    WalkEntry.exists_startsLast hw fun w hw => (hvalid.isNaN_walksOf hw).1, ?_, ?_⟩
  · intro e l he hl
    refine ⟨hlast e he, fun target start id b' hadd => ?_, hshown l hl, ?_⟩
    · rw [LayeredBeat.origin_of_addWalk hadd, hlast e he]
    · rw [hlast e he, hshown l hl]
      constructor
      · rintro ⟨_, _, ⟨⟩, ⟨⟩, h⟩
        exact h
      · exact fun h => ⟨_, _, rfl, rfl, h⟩
  · intro w hwe hwl
    rw [hlast w hwe, hshown w hwl]

/-- Of Anna's three walks, between which Ben walks off, the one in the middle both starts and ends
last; the editor goes on from its target, where the flattened beat shows her. -/
theorem stands_where_shown_iff_errand :
    let walk (id : Spelling) (target : Place Float) (start finish : Float) : WalkEntry Float :=
      ⟨"w", id, none, target, start, finish, true, none⟩
    let b : LayeredBeat Float := ⟨"b", "Errand", none, .stageFloor, [], [],
      [walk "anna" ⟨0.2, 0.5⟩ 0.0 1.0, walk "anna" ⟨0.8, 0.5⟩ 5.0 6.0,
        walk "ben" ⟨1.1, 0.5⟩ 7.0 8.0, walk "anna" ⟨0.5, 0.5⟩ 2.0 6.0]⟩
    let d : Directory := [⟨"anna", "Anna", .female⟩]
    let w := walk "anna" ⟨0.8, 0.5⟩ 5.0 6.0
    LayeredBeat.shape.Admits b ∧ d.knows "anna" = true ∧ b.walksOf "anna" ≠ [] ∧
      WalkEntry.EndsLast (b.walksOf "anna") w ∧ WalkEntry.StartsLast (b.walksOf "anna") w ∧
      b.lastPlace? "anna" = some ⟨0.8, 0.5⟩ ∧
      (b.flatten d).shownPlace? "anna" = some ⟨0.8, 0.5⟩ := by
  intro walk b d w
  have hb : LayeredBeat.shape.Admits b := LayeredBeat.admits_shape_iff.2 (by decide)
  have hne : b.walksOf "anna" ≠ [] := by decide
  let before := [walk "anna" ⟨0.2, 0.5⟩ 0.0 1.0]
  let after := [walk "anna" ⟨0.5, 0.5⟩ 2.0 6.0]
  have hends : WalkEntry.EndsLast (b.walksOf "anna") w :=
    ⟨before, after, by decide, by decide, by decide⟩
  have hstarts : WalkEntry.StartsLast (b.walksOf "anna") w :=
    ⟨before, after, by decide, by decide, by decide⟩
  obtain ⟨-, -, hplaces, -⟩ := stands_where_shown_iff b hb d "anna" rfl hne
  obtain ⟨hlast, -, hshown, -⟩ := hplaces w w hends hstarts
  exact ⟨hb, rfl, hne, hends, hstarts, hlast, hshown⟩

/-- A long walk goes on while a later one starts and ends: the editor lets the character go on from
the left, where the flattened beat shows it at the right. -/
theorem nested_walk_shown_elsewhere :
    let walk (target : Place Float) (start finish : Float) : WalkEntry Float :=
      ⟨"w", "anna", none, target, start, finish, true, none⟩
    let b : LayeredBeat Float := ⟨"b", "Nested", none, .stageFloor, [], [],
      [walk ⟨0.2, 0.5⟩ 0.0 10.0, walk ⟨0.8, 0.5⟩ 2.0 4.0]⟩
    let d : Directory := [⟨"anna", "Anna", .female⟩]
    LayeredBeat.shape.Admits b ∧ d.knows "anna" = true ∧ b.walksOf "anna" ≠ [] ∧
      b.lastPlace? "anna" = some ⟨0.2, 0.5⟩ ∧
      (b.flatten d).shownPlace? "anna" = some ⟨0.8, 0.5⟩ ∧
      (⟨0.2, 0.5⟩ : Place Float).coincides ⟨0.8, 0.5⟩ = false := by
  intro walk b d
  have hb : b.Valid := by decide
  have hlast : WalkEntry.StartsLast (b.walksOf "anna") (walk ⟨0.8, 0.5⟩ 2.0 4.0) :=
    ⟨[walk ⟨0.2, 0.5⟩ 0.0 10.0], [], by decide, by decide, by decide⟩
  refine ⟨LayeredBeat.admits_shape_iff.2 hb, rfl, by decide, by decide, ?_, by decide⟩
  rw [LayeredBeat.shownPlace?_flatten (by decide) rfl, hb.restingPlace_of_startsLast hlast]

end Promptbook
