import Promptbook.Proofs.Beat.Valid
import Promptbook.Proofs.Scenario.RoundTrip
import Promptbook.Proofs.Scene.Timed
import Promptbook.Scenario.Convert

/-!
# What answers a conversion

A text is answered with a script when it holds a scenario, and with a reason when it holds none.
Two kinds of text get no answer: one whose scenario has a time too long for milliseconds, and one in
which beats or characters stand in a text of their own that is nested too deeply.
-/

namespace Promptbook

open Record

namespace Double

/-- What is not below zero can only fail to be a whole number for being infinite. -/
theorem truncate_eq_error {x : Float} (hx : 0.0 ≤ x) {e : NonFinite} (h : truncate x = .error e) :
    e = .infinite := by
  cases e with
  | infinite => rfl
  | notANumber =>
    have hnan : x.isNaN = true := by
      rw [truncate, parts] at h
      change x.toModel.unpack.isNaN = true
      cases hu : x.toModel.unpack with
      | notANumber => rfl
      | infinity | zero | finite => simp [hu, Except.map] at h
    rw [(isNaN_of_le hx).2] at hnan
    cases hnan

end Double

theorem millis_eq_error {x : Float} (hx : 0.0 ≤ x) {e : Double.NonFinite}
    (h : millis x = .error e) : e = .infinite :=
  Double.truncate_eq_error (Double.mul_nonneg hx (by decide) (by decide)) h

variable {η : Type} {h : Handles η} {size : StageSize}

theorem Line.bubble_eq_error {figures : List (Figure η)} {l : Line Float} {e : Double.NonFinite}
    (h : l.bubble figures = .error e) : millis l.delay = .error e := by
  rw [bubble] at h
  cases hmillis : millis l.delay with
  | ok n =>
    rw [hmillis] at h
    cases h
  | error e' =>
    rw [hmillis] at h
    cases h
    rfl

namespace Beat

variable {b : Beat Float}

/-- Whether the times of a beat are short enough for milliseconds. -/
structure Timed (b : Beat Float) : Prop where
  duration : (b.duration * 1000.0).isFinite = true
  lines : ∀ l ∈ b.layers.lines, (l.delay * 1000.0).isFinite = true

theorem exists_scene_iff_timed : (∃ s, b.scene h size = .ok s) ↔ b.Timed := by
  simp only [exists_scene_iff, exists_millis_iff]
  constructor
  · rintro ⟨hlines, hduration⟩
    exact ⟨hduration, hlines⟩
  · rintro ⟨hduration, hlines⟩
    exact ⟨hlines, hduration⟩

/-- A valid beat that becomes no scene has a time that is too long. -/
theorem scene_eq_error (hb : b.Valid) {e : Double.NonFinite}
    (he : b.scene h size = .error e) : e = .infinite := by
  rw [scene_eq] at he
  cases hbubbles : b.layers.lines.mapM (Line.bubble (b.figures h size)) with
  | error e' =>
    obtain ⟨l, hl, hbubble⟩ := exists_of_mapM_eq_error hbubbles
    rw [hbubbles] at he
    cases he
    exact millis_eq_error (hb.lines l hl).1 (Line.bubble_eq_error hbubble)
  | ok bubbles =>
    rw [hbubbles] at he
    cases hmillis : millis b.duration with
    | error e' =>
      simp only [hmillis] at he
      cases he
      exact millis_eq_error (Std.le_of_lt hb.duration) hmillis
    | ok n =>
      simp only [hmillis] at he
      cases he

end Beat

namespace Script

variable {debug : Bool} {bs : List (Beat Float)}

theorem ofBeats_eq_ok_iff {s : Script η} : ofBeats h size debug bs = .ok s ↔
    List.Forall₂ (fun b scene => b.scene h size = .ok scene) bs s.scenes ∧ s.debug = debug := by
  rw [ofBeats, ← mapM_eq_ok_iff]
  cases bs.mapM (Beat.scene h size) with
  | error e => simp [Except.map]
  | ok scenes =>
    cases s
    simp only [Except.map, Except.ok.injEq, mk.injEq, eq_comm]

/-- A script can be made of beats whose times are all short enough. -/
theorem exists_ofBeats (ht : ∀ b ∈ bs, b.Timed) : ∃ s, ofBeats h size debug bs = .ok s := by
  have hscene : ∀ b ∈ bs, ∃ scene, b.scene h size = .ok scene := by
    intro b hb
    exact Beat.exists_scene_iff_timed.2 (ht b hb)
  obtain ⟨scenes, hscenes⟩ := exists_forall₂_iff.2 hscene
  exact ⟨⟨scenes, debug⟩, ofBeats_eq_ok_iff.2 ⟨hscenes, rfl⟩⟩

/-- Of valid beats one of which lasts too long or holds too late a line no script can be made. -/
theorem ofBeats_of_not_timed (hbs : ∀ b ∈ bs, b.Valid) (ht : ∃ b ∈ bs, ¬ b.Timed) :
    ofBeats h size debug bs = .error .infinite := by
  obtain ⟨b, hb, hlong⟩ := ht
  rw [ofBeats]
  cases hscenes : bs.mapM (Beat.scene h size) with
  | ok scenes =>
    have hscene := exists_forall₂_iff.1 ⟨scenes, mapM_eq_ok_iff.1 hscenes⟩ b hb
    exact absurd (Beat.exists_scene_iff_timed.1 hscene) hlong
  | error e =>
    obtain ⟨b', hb', he⟩ := exists_of_mapM_eq_error hscenes
    obtain rfl := Beat.scene_eq_error (hbs b' hb') he
    rfl

end Script

namespace Scenario

variable {env : Environment} {text : String}

theorem admits_beats {s : Scenario} (hs : (Contents.taggedShape s.origin).Admits s.toContents) :
    ∀ b ∈ s.beats, Beat.shape.Admits b :=
  hs.1.2.1

/-- A text with a scenario is answered with its script, where one can be made. -/
theorem tryConvert_of_decode {s : Scenario} (hsize : StageSize.ofEnvironment env = .ok size)
    (hdecode : decode text = .ok s) : tryConvert h env text =
      ((Script.ofBeats h size false s.beats).mapError .time).map .ready := by
  have hconvert : convert h env text = (Script.ofBeats h size false s.beats).mapError .time := by
    rw [convert, ofText, hdecode]
    change Script.compile h none env false s.beats = _
    rw [Script.compile, Option.elim_none, hsize]
  rw [tryConvert, hconvert]
  cases Script.ofBeats h size false s.beats <;> rfl

theorem tryConvert_of_not_timed {s : Scenario} (hsize : StageSize.ofEnvironment env = .ok size)
    (hdecode : decode text = .ok s) (ht : ∃ b ∈ s.beats, ¬ b.Timed) :
    tryConvert h env text = .error (.time .infinite) := by
  have htext : ofText inlineSource text = .ok s := by
    rw [ofText, hdecode]
    rfl
  have hbeats : ∀ b ∈ s.beats, b.Valid := fun b hb =>
    (Beat.admits_shape_iff_valid.1 (admits_beats (admits_of_ofText htext) b hb)).1
  rw [tryConvert_of_decode hsize hdecode, Script.ofBeats_of_not_timed hbeats ht]
  rfl

/-- A text without a scenario is answered with its problems, unless they are not told. -/
theorem tryConvert_of_problems {ps : List Problem} (hdecode : decode text = .error ps) :
    tryConvert h env text = (Problem.tooDeep? ps).elim
      (.ok (.failed (DocumentFault.problems ps).message)) fun m => .error (.tooDeep m) := by
  have hconvert : convert h env text = .error (.ofProblems inlineSource ps) := by
    rw [convert, ofText, hdecode]
    rfl
  rw [tryConvert, hconvert, Failure.ofProblems]
  cases Problem.tooDeep? ps <;> rfl

/-- What answers a text on a stage of a valid size.  A text with a scenario whose times are short
enough is answered with a script of one scene for each beat, in order; a text without a scenario is
answered with all its problems.  A time whose thousandfold is infinite ends the conversion without
an answer, and so does a text inside the text that is nested too deeply to be read. -/
theorem conversion_answered (h : Handles η) (hsize : StageSize.ofEnvironment env = .ok size)
    (text : String) :
    (∀ s, decode text = .ok s →
      ((∀ b ∈ s.beats, b.Timed) → ∃ script, tryConvert h env text = .ok (.ready script) ∧
        List.Forall₂ (fun b scene => b.scene h size = .ok scene) s.beats script.scenes) ∧
      ((∃ b ∈ s.beats, ¬ b.Timed) → tryConvert h env text = .error (.time .infinite))) ∧
    (∀ ps, decode text = .error ps →
      (Problem.tooDeep? ps = none →
        tryConvert h env text = .ok (.failed (DocumentFault.problems ps).message)) ∧
      ∀ m, Problem.tooDeep? ps = some m → tryConvert h env text = .error (.tooDeep m)) := by
  constructor
  · intro s hdecode
    constructor
    · intro ht
      obtain ⟨script, hscript⟩ :
          ∃ script, Script.ofBeats h size false s.beats = .ok script := Script.exists_ofBeats ht
      refine ⟨script, ?_, (Script.ofBeats_eq_ok_iff.1 hscript).1⟩
      rw [tryConvert_of_decode hsize hdecode, hscript]
      rfl
    · exact tryConvert_of_not_timed hsize hdecode
  · intro ps hdecode
    rw [tryConvert_of_problems hdecode]
    constructor
    · intro hdeep
      rw [hdeep]
      rfl
    · intro m hdeep
      rw [hdeep]
      rfl

/-- A salute of some seconds is answered with one scene, and one of none with a reason. -/
theorem conversion_answered_salute :
    (∃ script : Script String, tryConvert .names {} (saluteText "4.5") = .ok (.ready script) ∧
      script.scenes.length = 1) ∧
    tryConvert Handles.names {} (saluteText "0") = .ok (.failed <|
      "Schema validation failed: beat -> beats -> 0 -> duration: " ++
        "Input should be greater than 0") := by
  constructor
  · have hdecode : decode (saluteText "4.5") = .ok (salute 4.5) := rfl
    have ht : ∀ b ∈ (salute 4.5).beats, b.Timed := by
      intro b hb
      obtain rfl := List.mem_singleton.1 hb
      exact ⟨by decide, nofun⟩
    obtain ⟨script, hscript, hscenes⟩ :=
      ((conversion_answered .names StageSize.ofEnvironment_empty _).1 _ hdecode).1 ht
    exact ⟨script, hscript, hscenes.length_eq.symm⟩
  · have hdecode : decode (saluteText "0") =
        .error [⟨[.key "beat", .key "beats", .index 0, .key "duration"], .notAbove 0.0⟩] := rfl
    exact ((conversion_answered .names StageSize.ofEnvironment_empty _).2 _ hdecode).1 rfl

/-- A salute may last for so long that the conversion ends without an answer. -/
theorem long_salute_unanswered : decode (saluteText "1e306") = .ok (salute 1e306) ∧
    tryConvert Handles.names {} (saluteText "1e306") = .error (.time .infinite) := by
  have hdecode : (decode (saluteText "1e306")).toOption = some (salute 1e306) := by decide +kernel
  cases hs : decode (saluteText "1e306") with
  | error ps =>
    rw [hs] at hdecode
    cases hdecode
  | ok s =>
    rw [hs] at hdecode
    obtain rfl := Option.some.inj hdecode
    refine ⟨rfl, tryConvert_of_not_timed StageSize.ofEnvironment_empty hs ⟨_, .head _, ?_⟩⟩
    intro ht
    exact absurd ht.duration (by decide +kernel)

end Scenario

end Promptbook
