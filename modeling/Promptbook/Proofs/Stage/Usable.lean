import Promptbook.Proofs.Beat.Valid
import Promptbook.Proofs.Number.Undefined
import Promptbook.Proofs.Scene.Compiled

/-!
# Usable sizes of the stage

A setting is refused when it stands for no numeral or for a number that is not above zero.  What
is no number is not refused so, and neither is infinity.  On a stage with such a dimension places
are lost: all of them where the dimension is no number, and those with coordinate zero where it is
infinite.  On a finite stage every figure and every bubble of a valid beat has its place.
-/

namespace Promptbook

/-! ## Settings -/

namespace StageSize

/-- Whether a setting is refused: it stands for no numeral, or for a number not above zero. -/
def Refused (text : String) : Prop := ∀ x ∈ Numeral.ofSetting? text, x ≤ 0.0

/-- Whether a setting is the first of an environment that is refused, the width coming before the
height. -/
def FirstRefused (env : Environment) (e : BadSetting) : Prop :=
  (∃ text ∈ env.width, Refused text ∧ ⟨widthSetting, text⟩ = e) ∨
    (∀ text ∈ env.width, ¬ Refused text) ∧
      ∃ text ∈ env.height, Refused text ∧ ⟨heightSetting, text⟩ = e

section Setting

variable {name : String} (usual : Float) {setting : Option String}

theorem readSetting_eq_error_iff {e : BadSetting} : readSetting name usual setting = .error e ↔
    ∃ text ∈ setting, Refused text ∧ ⟨name, text⟩ = e := by
  cases setting with
  | none => simp [readSetting]
  | some text =>
    simp only [readSetting, Refused, Option.mem_some_iff, exists_eq_left']
    cases Numeral.ofSetting? text with
    | none => simp
    | some x => by_cases hx : x ≤ 0.0 <;> simp [hx]

theorem exists_readSetting_iff : (∃ x, readSetting name usual setting = .ok x) ↔
    ∀ text ∈ setting, ¬ Refused text := by
  have herror : (∃ x, readSetting name usual setting = .ok x) ↔
      ∀ e, readSetting name usual setting ≠ .error e := by
    cases readSetting name usual setting <;> simp
  simp only [herror, ne_eq, readSetting_eq_error_iff]
  constructor
  · exact fun h text htext hrefused => h _ ⟨text, htext, hrefused, rfl⟩
  · exact fun h e ⟨text, htext, hrefused, _⟩ => h text htext hrefused

variable {usual} in
/-- An accepted number is above zero, if it is a number. -/
theorem isNaN_or_pos_of_readSetting (husual : 0.0 < usual) {x : Float}
    (h : readSetting name usual setting = .ok x) : x.isNaN = true ∨ 0.0 < x := by
  cases setting with
  | none =>
    cases h
    exact .inr husual
  | some text =>
    rw [readSetting] at h
    cases hx : Numeral.ofSetting? text with
    | none =>
      rw [hx] at h
      cases h
    | some y =>
      rw [hx] at h
      dsimp only at h
      split_ifs at h with hle
      cases h
      cases hnan : x.isNaN with
      | true => exact .inl rfl
      | false =>
        rw [← Double.not_lt (by decide) hnan, not_not] at hle
        exact .inr hle

end Setting

variable {env : Environment} {size : StageSize}

theorem ofEnvironment_eq_error_iff {e : BadSetting} :
    ofEnvironment env = .error e ↔ FirstRefused env e := by
  rw [FirstRefused, ← readSetting_eq_error_iff usual.width, ← exists_readSetting_iff usual.width,
    ← readSetting_eq_error_iff usual.height, ofEnvironment]
  cases readSetting widthSetting usual.width env.width <;>
    cases readSetting heightSetting usual.height env.height <;>
    simp [bind, Except.bind, pure, Except.pure]

theorem ofEnvironment_eq_ok_iff : ofEnvironment env = .ok size ↔
    readSetting widthSetting usual.width env.width = .ok size.width ∧
      readSetting heightSetting usual.height env.height = .ok size.height := by
  obtain ⟨width, height⟩ := size
  rw [ofEnvironment]
  cases readSetting widthSetting usual.width env.width <;>
    cases readSetting heightSetting usual.height env.height <;>
    simp [bind, Except.bind, pure, Except.pure]

/-- Whether a coordinate is lost on a stage with a dimension. -/
def Loses (dimension x : Float) : Prop :=
  dimension.isNaN = true ∨ dimension.isInf = true ∧ (x == 0.0) = true

theorem isNaN_mul_iff_loses {dimension x : Float} (hx : x.isFinite = true) :
    (dimension * x).isNaN = true ↔ Loses dimension x := by
  rw [Double.isNaN_mul_iff, Double.isNaN_of_isFinite hx, Double.isInf_eq_false_of_isFinite hx]
  simp [Loses]

end StageSize

/-! ## Places in a scene -/

/-- Whether the coordinates of a point are numbers. -/
def Point.IsNumeric (q : Point) : Prop := q.x.isNaN = false ∧ q.y.isNaN = false

/-- Where the figures and the bubbles of a scene stand. -/
def Scene.points {η : Type} (s : Scene η) : List Point :=
  s.figures.map (·.position) ++ s.bubbles.map (·.position)

/-- A part of a valid beat is shown on the stage or in the wings. -/
theorem Part.Valid.shownAt {p : Part Float} (hp : p.Valid) : p.shownAt.InBounds := by
  have hplace : ∀ q : Option (Place Float), (∀ r ∈ q, r ∈ p.movement.places) →
      ∀ r : Place Float, r.InBounds → (q.getD r).InBounds := by
    intro q hq r hr
    cases q with
    | none => exact hr
    | some q => exact hp.places q (hq q rfl)
  have horigin := hplace p.movement.origin fun r hr =>
    List.mem_append_left _ (Option.mem_toList.2 hr)
  have htarget := hplace p.movement.target fun r hr =>
    List.mem_append_right _ (Option.mem_toList.2 hr)
  rw [Part.shownAt]
  split
  · exact horigin _ (by decide)
  · exact htarget _ (by decide)
  · exact htarget _ (by decide)

variable {η : Type} {h : Handles η} {size : StageSize}

theorem Part.isNumeric_figure_iff {p : Part Float} (hp : p.Valid) :
    (p.figure h size).position.IsNumeric ↔
      ¬ StageSize.Loses size.width p.shownAt.x ∧ ¬ StageSize.Loses size.height p.shownAt.y := by
  obtain ⟨hx, hy⟩ := Place.isFinite_of_inBounds hp.shownAt
  rw [← StageSize.isNaN_mul_iff_loses hx, ← StageSize.isNaN_mul_iff_loses hy, Bool.not_eq_true,
    Bool.not_eq_true]
  exact Iff.rfl

/-- A bubble stands at numbers where its speaker does. -/
theorem isNumeric_bubblePoint {speaker : Option (Figure η)}
    (hspeaker : ∀ c ∈ speaker, c.position.IsNumeric) : (bubblePoint speaker).IsNumeric := by
  cases speaker with
  | none =>
    have hx : (180.0 : Float).isNaN = false := by decide
    have hy : (100.0 : Float).isNaN = false := by decide
    exact ⟨hx, hy⟩
  | some c =>
    obtain ⟨hx, hy⟩ := hspeaker c rfl
    exact ⟨(Double.isNaN_add_of_isFinite (by decide)).trans hx,
      (Double.isNaN_add_of_isFinite (by decide)).trans hy⟩

/-- The points of a scene are numbers where those of its figures are. -/
theorem Scene.isNumeric_points_iff {b : Beat Float} {s : Scene η} (hs : b.scene h size = .ok s) :
    (∀ q ∈ s.points, q.IsNumeric) ↔ ∀ c ∈ b.figures h size, c.position.IsNumeric := by
  obtain ⟨bubbles, n, hbubbles, -, rfl⟩ := Beat.scene_eq_ok_iff.1 hs
  rw [Scene.points, List.forall_mem_append, List.forall_mem_map, List.forall_mem_map]
  refine ⟨fun hpoints => hpoints.1, fun hfigures => ⟨hfigures, ?_⟩⟩
  refine forall_mem_of_forall₂ hbubbles fun l _ u hu => ?_
  obtain ⟨n, -, rfl⟩ := Line.bubble_eq_ok_iff.1 hu
  exact isNumeric_bubblePoint fun c hc => hfigures c (List.mem_of_find?_eq_some hc)

/-- The first setting that is refused is the one that the size of the stage fails with.  Otherwise
each dimension is above zero or no number; and of a scene on that stage all figures and bubbles
stand at numbers exactly when no part of the beat is lost, neither by a dimension that is no number
nor, at coordinate zero, by an infinite one. -/
theorem stage_usable_iff (h : Handles η) (env : Environment) :
    (∀ e, StageSize.ofEnvironment env = .error e ↔ StageSize.FirstRefused env e) ∧
    ∀ size, StageSize.ofEnvironment env = .ok size →
      (size.width.isNaN = true ∨ 0.0 < size.width) ∧
      (size.height.isNaN = true ∨ 0.0 < size.height) ∧
      ∀ b : Beat Float, b.Valid → ∀ s, b.scene h size = .ok s →
        ((∀ q ∈ s.points, q.IsNumeric) ↔ ∀ p ∈ b.layers.parts,
          ¬ StageSize.Loses size.width p.shownAt.x ∧
            ¬ StageSize.Loses size.height p.shownAt.y) := by
  refine ⟨fun e => StageSize.ofEnvironment_eq_error_iff, fun size hsize => ?_⟩
  obtain ⟨hwidth, hheight⟩ := StageSize.ofEnvironment_eq_ok_iff.1 hsize
  refine ⟨StageSize.isNaN_or_pos_of_readSetting (by decide) hwidth,
    StageSize.isNaN_or_pos_of_readSetting (by decide) hheight, fun b hb s hs => ?_⟩
  rw [Scene.isNumeric_points_iff hs, Beat.figures, List.forall_mem_map]
  exact forall₂_congr fun p hp => Part.isNumeric_figure_iff (hb.parts p hp)

/-- On a stage of endless height Anna stands at numbers, since she is not all the way upstage. -/
theorem stage_usable_iff_tower :
    let anna : Part Float := ⟨"anna", "Anna", .female, .stayAt ⟨0.0, 0.5⟩, ⟨.neutral, 0.7⟩, none,
      .left, none⟩
    let b : Beat Float := ⟨"b", "Vigil", "", 4.0, ⟨[anna], none, none, none, []⟩⟩
    let env : Environment := { height := some " +Infinity" }
    let size : StageSize := ⟨360.0, Double.infinity⟩
    StageSize.ofEnvironment env = .ok size ∧ b.Valid ∧
      ∃ s, b.scene Handles.names size = .ok s ∧ ∀ q ∈ s.points, q.IsNumeric := by
  intro anna b env size
  have hsize : StageSize.ofEnvironment env = .ok size := by decide +kernel
  have hb : b.Valid := by decide
  obtain ⟨s, hs⟩ : ∃ s, b.scene Handles.names size = .ok s :=
    Beat.exists_scene_iff.2 ⟨List.forall_mem_nil _, 4000, by decide +kernel⟩
  obtain ⟨-, -, hpoints⟩ := (stage_usable_iff Handles.names env).2 size hsize
  refine ⟨hsize, hb, s, hs, (hpoints b hb s hs).2 ?_⟩
  rw [List.forall_mem_singleton, StageSize.Loses, StageSize.Loses]
  decide +kernel

/-- The width of a stage need not be a number, and then Anna is nowhere on it. -/
theorem width_no_number :
    let anna : Part Float := ⟨"anna", "Anna", .female, .stayAt ⟨0.5, 0.5⟩, ⟨.neutral, 0.7⟩, none,
      .left, none⟩
    let b : Beat Float := ⟨"b", "Vigil", "", 4.0, ⟨[anna], none, none, none, []⟩⟩
    let size : StageSize := ⟨Double.notANumber, 300.0⟩
    StageSize.ofEnvironment { width := some "nan" } = .ok size ∧ size.width.isFinite = false ∧
      ¬ 0.0 < size.width ∧ b.Valid ∧
      ∃ s, b.scene Handles.names size = .ok s ∧ ∃ c ∈ s.figures, c.position.x.isNaN = true := by
  intro anna b size
  obtain ⟨s, hs⟩ : ∃ s, b.scene Handles.names size = .ok s :=
    Beat.exists_scene_iff.2 ⟨List.forall_mem_nil _, 4000, by decide +kernel⟩
  obtain ⟨bubbles, n, -, -, rfl⟩ := Beat.scene_eq_ok_iff.1 hs
  exact ⟨by decide +kernel, by decide, by decide, by decide, _, hs, anna.figure _ size,
    List.mem_singleton_self _, by decide +kernel⟩

end Promptbook
