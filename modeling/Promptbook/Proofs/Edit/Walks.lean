import Promptbook.Proofs.Edit.Attempt
import Promptbook.Proofs.Number.Exact
import Promptbook.Proofs.Number.Sorting
import Promptbook.Proofs.Trip.Apart

/-!
# Walks that make one path

When each walk of a character is added for a time at which the last one is over, the walks make a
path: the last in the layer is also the one that ends last and the one that starts last, so that
the editor, which looks for the end, and the flattened beat, which sorts by the start, mean the
same walk.  Edits for other characters and other layers leave the path alone.
-/

namespace Promptbook

variable {α : Type} [Measure α]

namespace WalkEntry

/-- The requests that are not refused. -/
def kept (rs : List (WalkEntry α)) : List (WalkEntry α) := rs.filter fun r => r.Timely

theorem kept_append_singleton (rs : List (WalkEntry α)) {r : WalkEntry α} (hr : r.Timely) :
    kept (rs ++ [r]) = kept rs ++ [r] := by
  simp [kept, hr]

theorem kept_eq_nil {rs : List (WalkEntry α)} (h : ∀ r ∈ rs, ¬ r.Timely) : kept rs = [] := by
  rw [kept, List.filter_eq_nil_iff]
  exact fun r hr => by simpa using h r hr

/-- The walks that become of requests for one character, in the order in which they are made.  Each
walk begins when and where the last one ended; requests are refused only before the first. -/
inductive Path : List (WalkEntry α) → List (WalkEntry α) → Prop
  | nil {rs : List (WalkEntry α)} : (∀ r ∈ rs, ¬ r.Timely) → Path rs []
  | snoc {rs ws : List (WalkEntry α)} {r : WalkEntry α} : Path rs ws → r.Timely →
      r.start < r.finish → (∀ w ∈ ws.getLast?, w.finish ≤ r.start) →
      Path (rs ++ [r]) (ws ++ [r.departing (ws.getLast?.map (·.target))])

/-- Where ends come later and later, the last walk ends last. -/
theorem latest?_of_pairwise : {ws : List (WalkEntry α)} →
    (ws.Pairwise fun w v => w.finish < v.finish) → latest? ws = ws.getLast?
  | [], _ => rfl
  | [_], _ => rfl
  | w :: v :: ws, h => by
    rw [List.pairwise_cons] at h
    have hstep : latest? (w :: v :: ws) = latest? (v :: ws) := by
      rw [latest?, latest?, List.foldl_cons, if_pos (h.1 v List.mem_cons_self)]
    rw [hstep, latest?_of_pairwise h.2, List.getLast?_cons_cons]

namespace Path

variable {rs ws : List (WalkEntry α)}

/-- The last walk leads where the last request asks for. -/
theorem getLast?_target (h : Path rs ws) (hne : ws ≠ []) :
    ws.getLast?.map (·.target) = rs.getLast?.map (·.target) := by
  cases h with
  | nil => exact absurd rfl hne
  | snoc => simp

/-- Without walks all requests have been refused. -/
theorem not_timely (h : Path rs ws) (hws : ws = []) : ∀ r ∈ rs, ¬ r.Timely := by
  cases h with
  | nil hrs => exact hrs
  | snoc => simp at hws

theorem length_eq (h : Path rs ws) : ws.length = (kept rs).length := by
  induction h with
  | nil hrs => rw [kept_eq_nil hrs, List.length_nil]
  | snoc _ hr _ _ ih =>
    rw [kept_append_singleton _ hr, List.length_append, List.length_append, ih]
    rfl

/-- The walks are what becomes of the requests that are not refused: each leads where its request
asks for, from where the request says or else from where the walk before it led. -/
theorem leads (h : Path rs ws) {i : ℕ} {r w : WalkEntry α}
    (hr : (kept rs)[i]? = some r) (hw : ws[i]? = some w) :
    w.target = r.target ∧ w.start = r.start ∧
      w.origin = r.origin.or ((ws.take i).getLast?.map (·.target)) := by
  induction h with
  | nil => simp at hw
  | @snoc rs ws q h hq _ _ ih =>
    have hlength := h.length_eq
    rw [kept_append_singleton _ hq] at hr
    rcases lt_or_ge i ws.length with hi | hi
    · rw [List.getElem?_append_left hi] at hw
      rw [List.getElem?_append_left (hlength ▸ hi)] at hr
      rw [List.take_append_of_le_length hi.le]
      exact ih hr hw
    · have hlast : i = ws.length := by
        have := (List.getElem?_eq_some_iff.1 hw).1
        rw [List.length_append, List.length_singleton] at this
        omega
      subst hlast
      rw [hlength, List.getElem?_concat_length, Option.some_inj] at hr
      rw [List.getElem?_concat_length, Option.some_inj] at hw
      rw [← hw, ← hr, List.take_left]
      exact ⟨target_departing .., start_departing .., origin_departing ..⟩

theorem start_nonneg (h : Path rs ws) : ∀ w ∈ ws, 0.0 ≤ w.start := by
  induction h with
  | nil => exact List.forall_mem_nil _
  | snoc _ hr _ _ ih =>
    refine List.forall_mem_append.2 ⟨ih, List.forall_mem_singleton.2 ?_⟩
    rw [start_departing]
    exact hr.1

variable [Measure.Exact α]

theorem start_lt_finish_departing {r : WalkEntry α} (h : r.start < r.finish)
    (place : Option (Place α)) : (r.departing place).start < (r.departing place).finish := by
  rw [departing]
  cases r.origin.or place with
  | none => exact h
  | some p => exact Measure.Exact.lt_add _ (Measure.sup_pos _ Measure.Exact.half_pos)

theorem start_lt_finish (h : Path rs ws) : ∀ w ∈ ws, w.start < w.finish := by
  induction h with
  | nil => exact List.forall_mem_nil _
  | snoc _ _ hr _ ih =>
    exact List.forall_mem_append.2
      ⟨ih, List.forall_mem_singleton.2 (start_lt_finish_departing hr _)⟩

/-- Each walk waits for the end of every earlier one. -/
theorem waits (h : Path rs ws) : ws.Pairwise fun w v => w.finish ≤ v.start := by
  induction h with
  | nil => exact .nil
  | @snoc rs ws r h _ _ hlast ih =>
    refine List.pairwise_append.2 ⟨ih, List.pairwise_singleton .., fun w hw v hv => ?_⟩
    obtain rfl := List.mem_singleton.1 hv
    rw [start_departing]
    rcases List.eq_nil_or_concat' ws with rfl | ⟨us, u, rfl⟩
    · cases hw
    · have hu : u.finish ≤ r.start := hlast u (by simp)
      rcases List.mem_append.1 hw with hw | hw
      · -- An earlier walk ends before the last one starts.
        have hwu : w.finish ≤ u.start := (List.pairwise_append.1 ih).2.2 w hw u (by simp)
        have huu : u.start < u.finish := h.start_lt_finish u (by simp)
        exact Std.le_trans hwu (Std.le_trans (Std.le_of_lt huu) hu)
      · obtain rfl := List.mem_singleton.1 hw
        exact hu

theorem finish_lt (h : Path rs ws) : ws.Pairwise fun w v => w.finish < v.finish :=
  h.waits.imp_of_mem fun _ hv hle => Std.lt_of_le_of_lt hle (h.start_lt_finish _ hv)

theorem start_not_lt (h : Path rs ws) : ws.Pairwise fun w v => ¬ v.start < w.start :=
  h.waits.imp_of_mem fun hw _ hle =>
    Std.not_lt_of_ge (Std.le_of_lt (Std.lt_of_lt_of_le (h.start_lt_finish _ hw) hle))

/-- A request is not refused once there is a walk that it has to wait for. -/
theorem timely (h : Path rs ws) (hne : ws ≠ []) {r : WalkEntry α} (hr : r.start < r.finish)
    (hlast : ∀ w ∈ ws.getLast?, w.finish ≤ r.start) : r.Timely := by
  have hmem := List.getLast_mem hne
  have hstart : 0.0 ≤ r.start :=
    calc 0.0
        ≤ (ws.getLast hne).start := h.start_nonneg _ hmem
      _ ≤ (ws.getLast hne).finish := Std.le_of_lt (h.start_lt_finish _ hmem)
      _ ≤ r.start := hlast _ (List.getLast?_eq_some_getLast hne)
  exact ⟨hstart, Std.le_trans hstart (Std.le_of_lt hr)⟩

end Path

end WalkEntry

namespace LayeredBeat

variable {b : LayeredBeat α} {c : Spelling} {rs : List (WalkEntry α)} [Measure.Exact α]

/-- Who has followed a path stands where the last walk led. -/
theorem lastPlace?_of_path (h : WalkEntry.Path rs (b.walksOf c)) :
    b.lastPlace? c = (b.walksOf c).getLast?.map (·.target) :=
  congrArg (Option.map _) (WalkEntry.latest?_of_pairwise h.finish_lt)

/-- The walks of a path are in the order of their starts. -/
theorem timedWalksOf_of_path (h : WalkEntry.Path rs (b.walksOf c)) :
    b.timedWalksOf c = b.walksOf c := by
  refine filter_mergeSort_of_pairwise (fun w v u hwv hvu => ?_) (fun w v => ?_)
    (h.start_not_lt.imp fun hlt => decide_eq_true hlt)
  · rw [decide_eq_true_eq, Std.not_lt] at hwv hvu ⊢
    exact Std.le_trans hwv hvu
  · rw [Bool.or_eq_true, decide_eq_true_eq, decide_eq_true_eq, Std.not_lt, Std.not_lt]
    exact Std.le_total

end LayeredBeat

namespace Edit

open WalkEntry (Path)

/-- The walks that some edits ask for a character. -/
def requests (c : Spelling) (es : List (Edit α)) : List (WalkEntry α) := es.filterMap (·.asks? c)

theorem requests_cons (c : Spelling) (e : Edit α) (es : List (Edit α)) :
    requests c (e :: es) = (e.asks? c).toList ++ requests c es := by
  rw [requests, List.filterMap_cons]
  cases e.asks? c <;> rfl

/-- The walks that are asked for a character and not refused. -/
def accepted (c : Spelling) (es : List (Edit α)) : List (WalkEntry α) :=
  WalkEntry.kept (requests c es)

/-- Whether each walk that is asked for a character waits for the end of the character's previous
one. -/
def Paced (c : Spelling) : LayeredBeat α → List (Edit α) → Prop
  | _, [] => True
  | b, e :: es =>
    (∀ r ∈ e.asks? c, ∀ w ∈ (b.walksOf c).getLast?, w.finish ≤ r.start) ∧ Paced c (attempt b e) es

instance decidablePaced (c : Spelling) :
    (b : LayeredBeat α) → (es : List (Edit α)) → Decidable (Paced c b es)
  | _, [] => .isTrue trivial
  | b, e :: es =>
    have := decidablePaced c (attempt b e) es
    inferInstanceAs (Decidable (_ ∧ _))

variable {b : LayeredBeat α} {c : Spelling} {rs : List (WalkEntry α)} [Measure.Exact α]

theorem start_lt_finish_of_asks? {e : Edit α} {r : WalkEntry α} (h : r ∈ e.asks? c) :
    r.start < r.finish := by
  cases e with
  | addWalk characterId target start origin id =>
    rw [asks?] at h
    split at h
    · obtain rfl := Option.some.inj h
      exact Measure.Exact.lt_add _ Measure.Exact.one_pos
    · cases h
  | _ => cases h

/-- An edit goes on with the path of a character. -/
theorem path_attempt (h : Path rs (b.walksOf c)) {e : Edit α}
    (he : ∀ r ∈ e.asks? c, ∀ w ∈ (b.walksOf c).getLast?, w.finish ≤ r.start) :
    Path (rs ++ (e.asks? c).toList) ((attempt b e).walksOf c) := by
  rw [walksOf_attempt, b.lastPlace?_of_path h]
  cases hr : e.asks? c with
  | none => simpa using h
  | some r =>
    have hlast := he r hr
    have hlt := start_lt_finish_of_asks? hr
    by_cases htimely : r.Timely
    · simpa [Option.filter, htimely] using h.snoc htimely hlt hlast
    · -- Nothing has been added before, so that nothing is refused later.
      have hnil : b.walksOf c = [] := by
        by_contra hne
        exact htimely (h.timely hne hlt hlast)
      have hall : ∀ q ∈ rs ++ [r], ¬ q.Timely :=
        List.forall_mem_append.2 ⟨h.not_timely hnil, List.forall_mem_singleton.2 htimely⟩
      simpa [hnil, Option.filter, htimely] using Path.nil hall

/-- Paced edits make one path of the walks of a character. -/
theorem path_run (h : Path rs (b.walksOf c)) {es : List (Edit α)} (hes : Paced c b es) :
    Path (rs ++ requests c es) ((run b es).walksOf c) := by
  induction es generalizing b rs with
  | nil =>
    rw [requests, List.filterMap_nil, List.append_nil]
    exact h
  | cons e es ih =>
    rw [requests_cons, ← List.append_assoc]
    exact ih (path_attempt h hes.1) hes.2

end Edit

namespace LayeredBeat

open WalkEntry (Path)

variable {b : LayeredBeat α} {c : Spelling} {rs : List (WalkEntry α)} [Measure.Exact α]

/-- Of several walks on a path the flattened beat keeps the way from where the first was asked to
begin to where the last was asked to lead, and the side towards which the second leads. -/
theorem partOf?_flatten_of_path (h : Path rs (b.walksOf c)) {d : Directory} {character : Character}
    (hc : d.lookup? c = some character) {w v : WalkEntry α} {ws : List (WalkEntry α)}
    (hws : b.walksOf c = w :: v :: ws) :
    ∃ p, (b.flatten d).partOf? c = some p ∧
      p.movement = ⟨.move, (WalkEntry.kept rs).head?.bind (·.origin), rs.getLast?.map (·.target),
        .normal⟩ ∧
      p.facing = if w.startPlace.x < v.target.x then .right
        else if v.target.x < w.startPlace.x then .left else .center := by
  have hw : w ∈ b.walksOf c := by
    rw [hws]
    exact List.mem_cons_self
  obtain ⟨hwb, hid⟩ := List.mem_filter.1 hw
  have hmentioned : c ∈ b.mentioned := by
    rw [← eq_of_beq hid]
    exact List.mem_append_right _ (List.mem_map_of_mem hwb)
  have horigin : w.origin = (WalkEntry.kept rs).head?.bind (·.origin) := by
    obtain ⟨r, hr⟩ : ∃ r, (WalkEntry.kept rs)[0]? = some r :=
      ⟨_, List.getElem?_eq_getElem (by rw [← h.length_eq, hws]; simp)⟩
    have hfirst := (h.leads hr (by rw [hws]; rfl)).2.2
    rw [List.head?_eq_getElem?, hr, hfirst, List.take_zero]
    simp
  have htarget := h.getLast?_target (by rw [hws]; simp)
  refine ⟨b.part (b.rank c) character, ?_, ?_, ?_⟩
  · change (b.parts d).find? _ = _
    rw [b.find?_parts hmentioned, hc, Option.map_some]
  · obtain rfl := Directory.id_of_lookup? hc
    rw [part, b.timedWalksOf_of_path h, ← htarget, ← horigin, hws, List.getLast?_cons_cons,
      List.getLast?_eq_some_getLast (List.cons_ne_nil v ws)]
    rfl
  · obtain rfl := Directory.id_of_lookup? hc
    rw [part, b.timedWalksOf_of_path h, hws]
    rfl

end LayeredBeat

/-- What the walks of a character are after some edits that make one path of them. -/
structure Edit.Connected (c : Spelling) (b : LayeredBeat α) (es : List (Edit α)) : Prop where
  /-- Each request that is not refused makes a walk. -/
  length : ((run b es).walksOf c).length = (accepted c es).length
  /-- The walks end later and later. -/
  ends : ((run b es).walksOf c).Pairwise fun w v => w.finish < v.finish
  /-- Each walk leads where its request asks for, from where the request says or else from where
  the walk before it led. -/
  leads : ∀ (i : ℕ) (r w : WalkEntry α), (accepted c es)[i]? = some r →
    ((run b es).walksOf c)[i]? = some w → w.target = r.target ∧ w.start = r.start ∧
      w.origin = r.origin.or ((((run b es).walksOf c).take i).getLast?.map (·.target))
  /-- Of several walks the flattened beat keeps the way from where the first was asked to begin to
  where the last was asked to lead, and the side towards which the second leads. -/
  flattened : ∀ (d : Directory) (character : Character), d.lookup? c = some character →
    ∀ (w v : WalkEntry α) (ws : List (WalkEntry α)), (run b es).walksOf c = w :: v :: ws →
    ∃ p, ((run b es).flatten d).partOf? c = some p ∧
      p.movement = ⟨.move, (accepted c es).head?.bind (·.origin),
        (requests c es).getLast?.map (·.target), .normal⟩ ∧
      p.facing = if w.startPlace.x < v.target.x then .right
        else if v.target.x < w.startPlace.x then .left else .center

/-- Walks of one character that are added in the editor make a connected path, where times are
exact and distances are measured in any way, and no walk is asked for before the character's
previous one has ended. -/
theorem walks_connect {K : Type} [Field K] [LinearOrder K] [IsStrictOrderedRing K]
    (span : K → K → K) (b : LayeredBeat K) (c : Spelling) (es : List (Edit K))
    (hb : b.walksOf c = []) (hes : @Edit.Paced K (Measure.exact span) c b es) :
    @Edit.Connected K (Measure.exact span) c b es := by
  let := Measure.exact span
  have hnil : WalkEntry.Path [] (b.walksOf c) := by
    rw [hb]
    exact .nil (List.forall_mem_nil _)
  have hpath : WalkEntry.Path (Edit.requests c es) ((Edit.run b es).walksOf c) :=
    Edit.path_run hnil hes
  exact {
    length := hpath.length_eq
    ends := hpath.finish_lt
    leads := fun i r w => hpath.leads
    flattened := fun d character hc w v ws hws => LayeredBeat.partOf?_flatten_of_path hpath hc hws }

/-- Anna, whose first request is refused, appears at the left and later walks to the right, while
Ben comes and speaks. -/
theorem walks_connect_entrance :
    let span (dx dy : ℚ) : ℚ := |dx| + |dy|
    let b : LayeredBeat ℚ := ⟨"b", "Entrance", none, .stageFloor, [], [], []⟩
    let es : List (Edit ℚ) :=
      [.addWalk "anna" ⟨0.2, 0.5⟩ (-1) none none, .addWalk "anna" ⟨0.2, 0.5⟩ 0 none none,
        .addWalk "ben" ⟨0.5, 0.5⟩ 0 (some ⟨1, 0.5⟩) none,
        .appendLine ⟨"ben", "Ben", .male⟩ "Hello!" .happy none none,
        .addWalk "anna" ⟨0.8, 0.5⟩ 2 none none]
    b.walksOf "anna" = [] ∧ @Edit.Paced ℚ (Measure.exact span) "anna" b es ∧
      @Edit.Connected ℚ (Measure.exact span) "anna" b es := by
  intro span b es
  refine ⟨rfl, ?paced, walks_connect span b "anna" es rfl ?paced⟩
  decide +kernel

end Promptbook
