import Mathlib.Tactic.Linarith
import Promptbook.Proofs.Number.Exact
import Promptbook.Stage.Landmark

/-!
# The nearest landmark

The search for the landmark that labels a point keeps the best of the landmarks that it has met, so
that at its end it has found the nearest of all, the earliest of several.  Where the label changes
along a line from stage left to stage right follows from that alone: of two points on such a line,
each nearer to its own landmark than to that of the other, the right one has the landmark farther
right, wherever the landmarks stand.

Distances are compared exactly here.  Rounded squares can be equal where the exact ones are not.
-/

namespace Promptbook.Landmark

/-- The square of the distance from a landmark to a point. -/
def squaredDistance {α : Type} [Measure α] (l : Landmark) (x y : α) : α :=
  let p : Place α := l.place
  (p.x - x) * (p.x - x) + (p.y - y) * (p.y - y)

/-- Whether a landmark has the least value of some landmarks, and is the earliest that has it. -/
def Least {α : Type} [Measure α] (value : Landmark → α) (ls : List Landmark) (l : Landmark) :
    Prop :=
  ∃ us vs, ls = us ++ l :: vs ∧ (∀ m ∈ us, value l < value m) ∧ ∀ m ∈ vs, value l ≤ value m

/-- Whether a landmark is the one on the stage proper that is nearest to a point, the earliest of
several. -/
def Nearest {α : Type} [Measure α] (x y : α) (l : Landmark) : Prop :=
  Least (fun m => m.squaredDistance x y) onStage l

section Exact

variable {K : Type} [Field K] [LinearOrder K] {span : K → K → K} {value : Landmark → K}
  {ls : List Landmark} {l : Landmark} {x y : K}

theorem Least.mem (h : letI := Measure.exact span; Least value ls l) : l ∈ ls := by
  obtain ⟨us, vs, rfl, -, -⟩ := h
  exact List.mem_append_right us List.mem_cons_self

theorem Least.le (h : letI := Measure.exact span; Least value ls l) :
    ∀ m ∈ ls, value l ≤ value m := by
  obtain ⟨us, vs, rfl, hus, hvs⟩ := h
  rw [List.forall_mem_append, List.forall_mem_cons]
  exact ⟨fun m hm => le_of_lt (hus m hm), le_rfl, hvs⟩

/-! ## The search -/

/-- Whether a candidate is the best of the landmarks that have been met. -/
structure Candidate.Best (span : K → K → K) (value : Landmark → K) (seen : List Landmark)
    (c : Candidate K) : Prop where
  distance : c.distance = some (value c.landmark)
  least : letI := Measure.exact span; Least value seen c.landmark

/-- The first landmark is better than none. -/
theorem Candidate.best_first (value : Landmark → K) (l start : Landmark) :
    letI := Measure.exact span
    Candidate.Best span value [l] (Candidate.improve ⟨start, none⟩ l (value l)) :=
  ⟨rfl, [], [], rfl, List.forall_mem_nil _, List.forall_mem_nil _⟩

/-- A candidate stays the best when one more landmark is met. -/
theorem Candidate.Best.improve {seen : List Landmark} {c : Candidate K}
    (h : c.Best span value seen) (l : Landmark) :
    letI := Measure.exact span
    Candidate.Best span value (seen ++ [l]) (c.improve l (value l)) := by
  let := Measure.exact span
  obtain ⟨hdistance, hleast⟩ := h
  rw [Candidate.improve, hdistance]
  by_cases hlt : value l < value c.landmark
  · simp only [hlt, decide_true, if_true]
    refine ⟨rfl, seen, [], rfl, fun m hm => ?_, List.forall_mem_nil _⟩
    exact hlt.trans_le (hleast.le m hm)
  · simp only [hlt, decide_false, Bool.false_eq_true, if_false]
    obtain ⟨us, vs, hseen, hus, hvs⟩ := hleast
    refine ⟨hdistance, us, vs ++ [l], by rw [hseen]; simp, hus, ?_⟩
    rw [List.forall_mem_append, List.forall_mem_singleton]
    exact ⟨hvs, not_lt.1 hlt⟩

/-- With exact numbers no distance is out of range, so that the search finds the best of all. -/
theorem Candidate.Best.search {seen : List Landmark} {c : Candidate K}
    (h : letI := Measure.exact span; c.Best span (fun m => m.squaredDistance x y) seen)
    (ls : List Landmark) :
    letI := Measure.exact span
    ∃ c', search? x y ls c = some c' ∧
      Candidate.Best span (fun m => m.squaredDistance x y) (seen ++ ls) c' := by
  let := Measure.exact span
  induction ls generalizing seen c with
  | nil => exact ⟨c, rfl, by rwa [List.append_nil]⟩
  | cons l ls ih =>
    obtain ⟨c', hc', hbest⟩ := ih (h.improve l)
    refine ⟨c', hc', ?_⟩
    rwa [List.append_assoc] at hbest

/-! ## Points on the stage and beside it -/

variable [IsStrictOrderedRing K]

theorem exists_nearest (span : K → K → K) (hx : 0 ≤ x) (hx' : x ≤ 1) (y : K) :
    letI := Measure.exact span
    ∃ l, nearest? x y = some l ∧ Nearest x y l := by
  let := Measure.exact span
  have hleft : ¬ x < 0.0 := by norm_num [hx]
  have hright : ¬ 1.0 < x := by norm_num [hx']
  have hfirst : Candidate.Best span (fun m => m.squaredDistance x y) [left] _ :=
    Candidate.best_first _ left center
  obtain ⟨c, hc, hbest⟩ := hfirst.search onStage.tail
  refine ⟨c.landmark, ?_, hbest.least⟩
  rw [nearest?, if_neg hleft, if_neg hright]
  exact congrArg (Option.map Candidate.landmark) hc

theorem nearest?_of_neg (span : K → K → K) (hx : x < 0) (y : K) :
    letI := Measure.exact span
    nearest? x y = some offStageLeft := by
  let := Measure.exact span
  have hleft : x < 0.0 := by norm_num [hx]
  rw [nearest?, if_pos hleft]

theorem nearest?_of_one_lt (span : K → K → K) (hx : 1 < x) (y : K) :
    letI := Measure.exact span
    nearest? x y = some offStageRight := by
  let := Measure.exact span
  have hleft : ¬ x < 0.0 := by
    norm_num
    linarith
  have hright : 1.0 < x := by norm_num [hx]
  rw [nearest?, if_neg hleft, if_pos hright]

/-- No landmark is farther out than those off stage. -/
theorem place_x_bounds (span : K → K → K) (l : Landmark) :
    letI := Measure.exact span
    (offStageLeft.place : Place K).x ≤ (l.place : Place K).x ∧
      (l.place : Place K).x ≤ (offStageRight.place : Place K).x := by
  cases l <;> norm_num [place]

/-- Of two points at one height the right one has the landmark farther right. -/
theorem Nearest.place_x_le {x₁ x₂ : K} {l₁ l₂ : Landmark} (hx : x₁ < x₂)
    (h₁ : letI := Measure.exact span; Nearest x₁ y l₁)
    (h₂ : letI := Measure.exact span; Nearest x₂ y l₂) :
    letI := Measure.exact span
    (l₁.place : Place K).x ≤ (l₂.place : Place K).x := by
  let := Measure.exact span
  have hle₁ := Least.le h₁ l₂ (Least.mem h₂)
  have hle₂ := Least.le h₂ l₁ (Least.mem h₁)
  simp only [squaredDistance] at hle₁ hle₂
  by_contra! hlt
  -- The two comparisons add up to a product of the two displacements, which would be negative.
  have hproduct := mul_pos (sub_pos.2 hx) (sub_pos.2 hlt)
  nlinarith

/-- The landmark of any point is found, and moving to the right never moves it to the left. -/
theorem exists_place_x_le (span : K → K → K) {x₁ x₂ : K} (hx : x₁ ≤ x₂) (y : K) :
    letI := Measure.exact span
    ∃ l₁ l₂ : Landmark, nearest? x₁ y = some l₁ ∧ nearest? x₂ y = some l₂ ∧
      (l₁.place : Place K).x ≤ (l₂.place : Place K).x := by
  let := Measure.exact span
  have hfound : ∀ x : K, ∃ l, nearest? x y = some l := by
    intro x
    rcases lt_or_ge x 0 with hneg | hneg
    · exact ⟨offStageLeft, nearest?_of_neg span hneg y⟩
    · rcases lt_or_ge 1 x with hlarge | hlarge
      · exact ⟨offStageRight, nearest?_of_one_lt span hlarge y⟩
      · obtain ⟨l, hl, -⟩ := exists_nearest span hneg hlarge y
        exact ⟨l, hl⟩
  obtain ⟨m₁, hm₁⟩ := hfound x₁
  obtain ⟨m₂, hm₂⟩ := hfound x₂
  rcases lt_or_ge x₁ 0 with hneg | hneg
  · exact ⟨_, m₂, nearest?_of_neg span hneg y, hm₂, (place_x_bounds span m₂).1⟩
  rcases lt_or_ge 1 x₂ with hlarge | hlarge
  · exact ⟨m₁, _, hm₁, nearest?_of_one_lt span hlarge y, (place_x_bounds span m₁).2⟩
  rcases hx.eq_or_lt with rfl | hlt
  · exact ⟨m₁, m₁, hm₁, hm₁, le_rfl⟩
  obtain ⟨l₁, hl₁, hnearest₁⟩ := exists_nearest span hneg (hx.trans hlarge) y
  obtain ⟨l₂, hl₂, hnearest₂⟩ := exists_nearest span (hneg.trans hx) hlarge y
  exact ⟨l₁, l₂, hl₁, hl₂, hnearest₁.place_x_le hlt hnearest₂⟩

end Exact

/-- With exact numbers the label of a point on the stage is the nearest to the point of the nine
landmarks on the stage proper, the earliest of several; and of two points at one height, on the
stage or beside it, the right one never has the landmark farther left. -/
theorem nearest_label_moves_right {K : Type} [Field K] [LinearOrder K] [IsStrictOrderedRing K]
    (span : K → K → K) (y : K) :
    (∀ x : K, 0 ≤ x → x ≤ 1 →
      ∃ l, @nearest? K (.exact span) x y = some l ∧ @Nearest K (.exact span) x y l ∧
        ∀ m, m ≠ offStageLeft → m ≠ offStageRight →
          @squaredDistance K (.exact span) l x y ≤ @squaredDistance K (.exact span) m x y) ∧
    ∀ x₁ x₂ : K, x₁ ≤ x₂ → ∃ l₁ l₂ : Landmark,
      @nearest? K (.exact span) x₁ y = some l₁ ∧ @nearest? K (.exact span) x₂ y = some l₂ ∧
        (@place K (.exact span) l₁).x ≤ (@place K (.exact span) l₂).x := by
  refine ⟨fun x hx hx' => ?_, fun _ _ hx => exists_place_x_le span hx y⟩
  obtain ⟨l, hl, hnearest⟩ := exists_nearest span hx hx' y
  exact ⟨l, hl, hnearest, fun m hleft hright =>
    Least.le hnearest m (mem_onStage_iff.2 ⟨hleft, hright⟩)⟩

/-- Half way between the center and the place in front of it a point belongs to the center, which is
not to the left of the left wing. -/
theorem nearest_label_moves_right_seam :
    let span (dx dy : ℚ) : ℚ := |dx| + |dy|
    letI := Measure.exact span
    let y : ℚ := 11 / 20
    nearest? (1 / 2) y = some center ∧
      squaredDistance center (1 / 2) y = squaredDistance centerFront (1 / 2) y ∧
      (∃ l, nearest? (1 / 2) y = some l ∧ Nearest (1 / 2) y l ∧
        ∀ m, m ≠ offStageLeft → m ≠ offStageRight →
          squaredDistance l (1 / 2) y ≤ squaredDistance m (1 / 2) y) ∧
      ∃ l₁ l₂ : Landmark, nearest? (-1 / 20) y = some l₁ ∧ nearest? (1 / 2) y = some l₂ ∧
        (l₁.place : Place ℚ).x ≤ (l₂.place : Place ℚ).x := by
  intro span y
  obtain ⟨hnearest, hright⟩ := nearest_label_moves_right span y
  exact ⟨by decide +kernel, by decide +kernel, hnearest (1 / 2) (by norm_num) (by norm_num),
    hright (-1 / 20) (1 / 2) (by norm_num)⟩

end Promptbook.Landmark
