import Promptbook.Proofs.Number.Monotone
import Promptbook.Proofs.Scenario.Converted
import Promptbook.Scene.Record

/-!
# Which scripts can be made

Of valid beats a script can be made unless a time is too long for milliseconds: whatever else the
beats hold, the scenes stay within their own bounds.  The length of the script is exact, since each
duration is cut to a whole number of milliseconds before they are added up.
-/

namespace Promptbook

open Record

/-! ## Whole milliseconds -/

namespace Double

/-- What is not below zero is cut to the whole number below its exact value. -/
theorem truncate_eq_ok_iff {x : Float} (hx : 0.0 ≤ x) {n : ℤ} :
    truncate x = .ok n ↔ ∃ q : ℚ, magnitude x = q ∧ ⌊q⌋ = n := by
  rw [truncate, parts]
  -- Infinite, zero, or a significand and an exponent, which is divided with a remainder.
  obtain ⟨hu, hv⟩ | ⟨⟨s, hu⟩, hv⟩ | ⟨m, e, hc, -, hu, hv⟩ := unpack_cases hx
  · simp [hu, hv, Except.map]
  · have hzero : ∀ q : ℚ, (0 : WithTop ℚ) = q ↔ q = 0 := fun q => by
      rw [← WithTop.coe_zero, WithTop.coe_inj, eq_comm]
    simp [hu, hv, Except.map, Parts.signed, Parts.fraction, hzero]
  · have hfloor : ⌊(m * 2 ^ e : ℚ)⌋ = ((m * 2 ^ e.toNat / 2 ^ (-e).toNat : ℕ) : ℤ) := by
      rw [← Shortest.fraction_eq ⟨false, m, e⟩, Rat.floor_natCast_div_natCast]
      rfl
    have hvalue : (∃ q : ℚ, ((m * 2 ^ e : ℚ) : WithTop ℚ) = q ∧ ⌊q⌋ = n) ↔
        ⌊(m * 2 ^ e : ℚ)⌋ = n := by
      simp only [WithTop.coe_inj, exists_eq_left']
    rw [hv, hvalue, hfloor]
    simp [hu, Except.map, Parts.signed, Parts.fraction]

end Double

/-! ## The bounds of a scene -/

/-- The bounds of a figure. -/
structure Figure.Valid {η : Type} (c : Figure η) : Prop where
  alpha : 0.0 ≤ c.alpha ∧ c.alpha ≤ 1.0
  volume : 0.0 ≤ c.voice.volume ∧ c.voice.volume ≤ 1.0

/-- The bounds of a scene. -/
structure Scene.Valid {η : Type} (s : Scene η) : Prop where
  figures : ∀ c ∈ s.figures, c.Valid
  volume : ∀ u ∈ s.bubbles, ∀ v ∈ u.voice, 0.0 ≤ v.volume ∧ v.volume ≤ 1.0

/-- The whole numbers of a scene. -/
def Scene.wholes {η : Type} (s : Scene η) : List Int :=
  (s.figures.flatMap fun c => [c.animationMillis, c.voice.speed, c.voice.duration]) ++
    (s.bubbles.flatMap fun u => [u.delayMillis, u.typingSpeed] ++
      u.voice.toList.flatMap fun v => [v.speed, v.duration]) ++ [s.durationMillis]

theorem Figure.admits_shape_iff {c : Figure Json} :
    Figure.shape.Admits c ↔ c.image.isBrief ∧ (0.0 ≤ c.alpha ∧ c.alpha ≤ 1.0) ∧
      (Json.integer c.animationMillis).isBrief ∧ Voice.shape.Admits c.voice := by
  have hall : ∀ x : Float, Range.all.fault? x = none := fun _ => rfl
  simp [shape, Point.shape, Shape.Admits, Range.share, Range.between_fault?_eq_none_iff, hall,
    belowLeast?]

theorem Bubble.admits_shape_iff {u : Bubble} :
    Bubble.shape.Admits u ↔ (Json.integer u.delayMillis).isBrief ∧
      (Json.integer u.typingSpeed).isBrief ∧ ∀ v ∈ u.voice, Voice.shape.Admits v := by
  have hall : ∀ x : Float, Range.all.fault? x = none := fun _ => rfl
  simp [shape, Point.shape, Shape.Admits, hall, belowLeast?]

theorem Scene.admits_shape_iff {s : Scene Json} :
    Scene.shape.Admits s ↔ s.backdrop.isBrief ∧ (∀ c ∈ s.figures, Figure.shape.Admits c) ∧
      (∀ u ∈ s.bubbles, Bubble.shape.Admits u) ∧ (Json.integer s.durationMillis).isBrief := by
  simp [shape, Shape.Admits, belowLeast?]

theorem Scene.forall_mem_wholes_iff {s : Scene Json} {P : Int → Prop} :
    (∀ n ∈ s.wholes, P n) ↔
      (∀ c ∈ s.figures, P c.animationMillis ∧ P c.voice.speed ∧ P c.voice.duration) ∧
      (∀ u ∈ s.bubbles, P u.delayMillis ∧ P u.typingSpeed ∧
        ∀ v ∈ u.voice, P v.speed ∧ P v.duration) ∧ P s.durationMillis := by
  simp only [wholes, List.forall_mem_append, List.forall_mem_flatMap, List.forall_mem_cons,
    Option.mem_toList]
  simp [and_assoc]

/-- The schema admits the valid scenes whose handles and whole numbers are short. -/
theorem Scene.admits_shape_iff_valid {s : Scene Json} : Scene.shape.Admits s ↔
    s.Valid ∧ (∀ j ∈ s.handles, j.isBrief) ∧ ∀ n ∈ s.wholes, (Json.integer n).isBrief := by
  rw [forall_mem_wholes_iff, handles, List.forall_mem_cons, List.forall_mem_map]
  simp only [admits_shape_iff, Figure.admits_shape_iff, Bubble.admits_shape_iff,
    Voice.admits_shape_iff]
  constructor
  · rintro ⟨hbackdrop, hfigures, hbubbles, hduration⟩
    refine ⟨⟨fun c hc => ?_, fun u hu v hv => ?_⟩, ⟨hbackdrop, fun c hc => (hfigures c hc).1⟩,
      fun c hc => ?_, fun u hu => ?_, hduration⟩
    · exact ⟨(hfigures c hc).2.1, (hfigures c hc).2.2.2.1⟩
    · exact ((hbubbles u hu).2.2 v hv).1
    · exact (hfigures c hc).2.2.imp_right And.right
    · exact (hbubbles u hu).imp_right fun h => h.imp_right fun h v hv => (h v hv).2
  · rintro ⟨h, ⟨hbackdrop, himages⟩, hfigures, hbubbles, hduration⟩
    refine ⟨hbackdrop, fun c hc => ?_, fun u hu => ?_, hduration⟩
    · obtain ⟨hmillis, hvoice⟩ := hfigures c hc
      exact ⟨himages c hc, (h.figures c hc).alpha, hmillis, (h.figures c hc).volume, hvoice⟩
    · obtain ⟨hdelay, hspeed, hvoice⟩ := hbubbles u hu
      exact ⟨hdelay, hspeed, fun v hv => ⟨h.volume u hu v hv, hvoice v hv⟩⟩

variable {η : Type} {h : Handles η} {size : StageSize}

theorem Scene.handles_map (f : η → Json) (s : Scene η) : (s.map f).handles = s.handles.map f := by
  rw [handles, handles, map, List.map_cons, List.map_map, List.map_map]
  rfl

theorem Scene.wholes_map (f : η → Json) (s : Scene η) : (s.map f).wholes = s.wholes := by
  rw [wholes, wholes, map, List.flatMap_map]
  rfl

theorem Scene.Valid.map {s : Scene η} (hs : s.Valid) (f : η → Json) : (s.map f).Valid where
  figures := List.forall_mem_map.2 fun c hc => ⟨(hs.figures c hc).alpha, (hs.figures c hc).volume⟩
  volume := hs.volume

/-- Whatever its handles stand for, a scene within its bounds is only refused for a whole number that
is too long to be read. -/
theorem Scene.Valid.admits_map_iff {s : Scene η} (hs : s.Valid) (f : η → Json) :
    Scene.shape.Admits (s.map f) ↔
      (∀ x ∈ s.handles, (f x).isBrief) ∧ ∀ n ∈ s.wholes, (Json.integer n).isBrief := by
  rw [admits_shape_iff_valid, handles_map, wholes_map, List.forall_mem_map]
  exact and_iff_right (hs.map f)

theorem Part.Valid.figure {p : Part Float} (hp : p.Valid) : (p.figure h size).Valid := by
  constructor
  · change 0.0 ≤ (if p.movement.kind = .exit then (0.3 : Float) else 1.0) ∧
      (if p.movement.kind = .exit then (0.3 : Float) else 1.0) ≤ 1.0
    split_ifs <;> decide
  · change 0.0 ≤ (p.voice.getD .usual).volume ∧ (p.voice.getD .usual).volume ≤ 1.0
    cases hvoice : p.voice with
    | none => decide
    | some v => exact hp.volume v hvoice

/-- The scene of a valid beat is within the bounds of scenes. -/
theorem Beat.Valid.scene {b : Beat Float} (hb : b.Valid) {s : Scene η}
    (hs : b.scene h size = .ok s) : s.Valid := by
  obtain ⟨bubbles, n, hbubbles, -, rfl⟩ := scene_eq_ok_iff.1 hs
  have hfigures : ∀ c ∈ b.figures h size, c.Valid :=
    List.forall_mem_map.2 fun p hp => (hb.parts p hp).figure
  refine ⟨hfigures, ?_⟩
  refine forall_mem_of_forall₂ hbubbles fun l _ u hu v hv => ?_
  obtain ⟨delay, -, rfl⟩ := Line.bubble_eq_ok_iff.1 hu
  obtain ⟨c, hc, rfl⟩ := Option.map_eq_some_iff.1 hv
  exact (hfigures c (List.mem_of_find?_eq_some hc)).volume

/-! ## Scripts -/

namespace Script

variable {debug : Bool} {bs : List (Beat Float)}

/-- The length of a script is the sum of the durations of its beats, each cut to milliseconds. -/
theorem totalMillis_of_ofBeats {s : Script η} (hs : ofBeats h size debug bs = .ok s) :
    ∃ ns, List.Forall₂ (fun b n => millis b.duration = .ok n) bs ns ∧ s.totalMillis = ns.sum := by
  refine ⟨s.scenes.map (·.durationMillis), ?_, ?_⟩
  · rw [List.forall₂_map_right_iff]
    refine (ofBeats_eq_ok_iff.1 hs).1.imp fun b scene hscene => ?_
    obtain ⟨bubbles, n, -, hn, rfl⟩ := Beat.scene_eq_ok_iff.1 hscene
    exact hn
  · rw [totalMillis, List.sum_eq_foldl]

end Script

theorem Beat.Valid.millis_nonneg {b : Beat Float} (hb : b.Valid) : 0.0 ≤ b.duration * 1000.0 :=
  Double.mul_nonneg (Std.le_of_lt hb.duration) (by decide) (by decide)

theorem Beat.not_timed_iff {b : Beat Float} : ¬ b.Timed ↔ (b.duration * 1000.0).isFinite = false ∨
    ∃ l ∈ b.layers.lines, (l.delay * 1000.0).isFinite = false := by
  have htimed : b.Timed ↔ (b.duration * 1000.0).isFinite = true ∧
      ∀ l ∈ b.layers.lines, (l.delay * 1000.0).isFinite = true :=
    ⟨fun h => ⟨h.duration, h.lines⟩, fun h => ⟨h.1, h.2⟩⟩
  simp [htimed, imp_iff_not_or]

/-- Of valid beats a script can be made for a stage of any size unless a duration or the delay of a
line is too long for milliseconds, and nothing else can fail.  The script has the scenes of the
beats in their order, each within the bounds of scenes, so that the schema of scenes admits it
unless one of its whole numbers, or one in a handle, is too long to be read; and it is as long as
the exact durations cut to milliseconds are together. -/
theorem compile_fails_iff (h : Handles η) (size : StageSize) (env : Environment) (debug : Bool)
    (bs : List (Beat Float)) (hbs : ∀ b ∈ bs, b.Valid) :
    ((∃ f, Script.compile h (some size) env debug bs = .error f) ↔
      ∃ b ∈ bs, (b.duration * 1000.0).isFinite = false ∨
        ∃ l ∈ b.layers.lines, (l.delay * 1000.0).isFinite = false) ∧
    (∀ f, Script.compile h (some size) env debug bs = .error f →
      f = .time .infinite ∧ f.message = "cannot convert float infinity to integer") ∧
    ∀ s, Script.compile h (some size) env debug bs = .ok s →
      List.Forall₂ (fun b scene => b.scene h size = .ok scene ∧ scene.Valid ∧
        ∀ f : η → Json, Scene.shape.Admits (scene.map f) ↔
          (∀ x ∈ scene.handles, (f x).isBrief) ∧ ∀ n ∈ scene.wholes, (Json.integer n).isBrief)
        bs s.scenes ∧
      s.debug = debug ∧
      ∃ ns : List ℤ, s.totalMillis = ns.sum ∧ List.Forall₂ (fun b n =>
        ∃ q : ℚ, Double.magnitude (b.duration * 1000.0) = q ∧ ⌊q⌋ = n) bs ns := by
  have hcompile : Script.compile h (some size) env debug bs =
      (Script.ofBeats h size debug bs).mapError .time := rfl
  simp only [← Beat.not_timed_iff, hcompile]
  by_cases ht : ∃ b ∈ bs, ¬ b.Timed
  · rw [Script.ofBeats_of_not_timed hbs ht]
    refine ⟨iff_of_true ⟨_, rfl⟩ ht, ?_, nofun⟩
    rintro f ⟨⟩
    exact ⟨rfl, rfl⟩
  · have htimed : ∀ b ∈ bs, b.Timed := by simpa using ht
    obtain ⟨s, hs⟩ := Script.exists_ofBeats htimed
    rw [hs]
    refine ⟨iff_of_false (fun ⟨_, hf⟩ => nomatch hf) ht, nofun, ?_⟩
    rintro s ⟨⟩
    obtain ⟨hscenes, hdebug⟩ := Script.ofBeats_eq_ok_iff.1 hs
    obtain ⟨ns, hns, htotal⟩ := Script.totalMillis_of_ofBeats hs
    refine ⟨?_, hdebug, ns, htotal, ?_⟩
    · refine ((List.forall₂_and_left bs s.scenes).2 ⟨hbs, hscenes⟩).imp ?_
      rintro b scene ⟨hb, hscene⟩
      exact ⟨hscene, hb.scene hscene, (hb.scene hscene).admits_map_iff⟩
    · refine ((List.forall₂_and_left bs ns).2 ⟨hbs, hns⟩).imp ?_
      rintro b n ⟨hb, hn⟩
      exact (Double.truncate_eq_ok_iff hb.millis_nonneg).1 hn

/-- Anna is on a stage without a size twice, with a voice without a pitch, and leaves for nowhere
while a ghost says something ever so slowly: a script can be made of that, but none of a finite
duration that is too long. -/
theorem compile_fails_iff_farewell :
    let anna : Part Float := ⟨"anna", "Anna", .female, ⟨.exit, none, none, .normal⟩,
      ⟨.neutral, 0.7⟩, none, .left, some ⟨Double.notANumber, 80, 50, 0.5, true⟩⟩
    let boo : Line Float := ⟨"l", "ghost", "Boo!", .neutral, 0.5, 10 ^ 30⟩
    let b : Beat Float :=
      ⟨"b", "Farewell", "", 4.0, ⟨[anna, anna], some ⟨.custom, none, .cut⟩, none, none, [boo]⟩⟩
    let late : Beat Float := { b with duration := 1e306 }
    let size : StageSize := ⟨Double.notANumber, Double.infinity⟩
    b.Valid ∧ late.Valid ∧ late.duration.isFinite = true ∧
      (∃ s, Script.compile .names (some size) {} false [b, b] = .ok s ∧ s.scenes.length = 2) ∧
      ∃ f, Script.compile .names (some size) {} false [b, late] = .error f ∧
        f.message = "cannot convert float infinity to integer" := by
  intro anna boo b late size
  have hb : b.Valid := by decide
  have hlate : late.Valid := by decide +kernel
  obtain ⟨hfails, -, hmade⟩ := compile_fails_iff .names size {} false [b, b] (by simp [hb])
  obtain ⟨hfails', hreason, -⟩ := compile_fails_iff .names size {} false [b, late]
    (by simp [hb, hlate])
  refine ⟨hb, hlate, by decide +kernel, ?_, ?_⟩
  · cases hscript : Script.compile .names (some size) {} false [b, b] with
    | error f =>
      exact absurd (hfails.1 ⟨f, hscript⟩) (by decide)
    | ok s => exact ⟨s, rfl, (hmade s hscript).1.length_eq.symm⟩
  · obtain ⟨f, hf⟩ := hfails'.2 ⟨late, by simp, .inl (by decide +kernel)⟩
    exact ⟨f, hf, (hreason f hf).2⟩

end Promptbook
