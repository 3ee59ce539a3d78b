import Promptbook.Proofs.Scene.Compiled
import Promptbook.Scenario.Convert

/-!
# Handles are not looked into

A script is made in the same way whatever its handles are: figures are found by the ids of their
parts, and bubbles stand where figures are.  So the script with handles is the script with the names
of the pictures, with each name exchanged for its handle.
-/

namespace Promptbook

variable {η θ : Type}

theorem Part.figure_eq_map (h : Handles η) (size : StageSize) (p : Part Float) :
    p.figure h size = (p.figure .names size).map h.handle := rfl

theorem speaker?_map (f : η → θ) (figures : List (Figure η)) (id : Spelling) :
    speaker? (figures.map (·.map f)) id = (speaker? figures id).map (·.map f) :=
  List.find?_map ..

/-- A bubble has nothing of the picture of its speaker. -/
theorem Line.bubble_map (f : η → θ) (figures : List (Figure η)) (l : Line Float) :
    l.bubble (figures.map (·.map f)) = l.bubble figures := by
  rw [bubble, bubble, speaker?_map]
  cases speaker? figures l.characterId <;> rfl

theorem Beat.figures_eq_map (h : Handles η) (size : StageSize) (b : Beat Float) :
    b.figures h size = (b.figures .names size).map (·.map h.handle) := by
  rw [figures, figures, List.map_map]
  exact List.map_congr_left fun p _ => p.figure_eq_map h size

theorem Beat.sceneWith_eq_map (h : Handles η) (size : StageSize) (b : Beat Float)
    (bubbles : List Bubble) (durationMillis : Int) :
    b.sceneWith h size bubbles durationMillis =
      (b.sceneWith .names size bubbles durationMillis).map h.handle := by
  rw [sceneWith, figures_eq_map]
  rfl

/-- The scene of a beat with handles is the one with names, each exchanged for its handle. -/
theorem Beat.scene_eq_map (h : Handles η) (size : StageSize) (b : Beat Float) :
    b.scene h size = (b.scene .names size).map (Scene.map h.handle) := by
  have hbubbles : b.layers.lines.mapM (Line.bubble (b.figures h size)) =
      b.layers.lines.mapM (Line.bubble (b.figures .names size)) := by
    rw [b.figures_eq_map h size]
    exact congrFun (congrArg List.mapM (funext (Line.bubble_map h.handle _))) _
  rw [scene_eq, scene_eq, hbubbles]
  cases b.layers.lines.mapM (Line.bubble (b.figures .names size)) with
  | error e => rfl
  | ok bubbles =>
    cases millis b.duration with
    | error e => rfl
    | ok n => exact congrArg Except.ok (b.sceneWith_eq_map h size bubbles n)

theorem Script.ofBeats_eq_map (h : Handles η) (size : StageSize) (debug : Bool)
    (bs : List (Beat Float)) :
    ofBeats h size debug bs = (ofBeats .names size debug bs).map (map h.handle) := by
  rw [ofBeats, ofBeats, mapM_eq_map_mapM (Beat.scene_eq_map h size)]
  cases bs.mapM (Beat.scene .names size) <;> rfl

/-- A script with handles is the one with names, each exchanged for its handle, and there is one
just in case there is the other.  Of a table the handle is the value for the name, and the fallback
for a name that has no value or null. -/
theorem compile_names_map (size : Option StageSize) (env : Environment) (debug : Bool)
    (bs : List (Beat Float)) :
    (∀ (η : Type) (h : Handles η), Script.compile h size env debug bs =
      (Script.compile .names size env debug bs).map (Script.map h.handle)) ∧
    ∀ (entries : List (Spelling × Json)) (fallback : Json),
      Script.compile (.table entries fallback) size env debug bs =
        (Script.compile .names size env debug bs).map (Script.map fun name : String =>
          match Json.lookup? name entries with
          | none | some .null => fallback
          | some value => value) := by
  have hhandles : ∀ (η : Type) (h : Handles η), Script.compile h size env debug bs =
      (Script.compile .names size env debug bs).map (Script.map h.handle) := by
    intro η h
    rw [Script.compile, Script.compile]
    cases size.elim (StageSize.ofEnvironment env) .ok with
    | error s => rfl
    | ok size =>
      dsimp only
      rw [Script.ofBeats_eq_map]
      cases Script.ofBeats .names size debug bs <;> rfl
  refine ⟨hhandles, fun entries fallback => ?_⟩
  rw [hhandles]
  congr 2
  funext name
  rw [Handles.handle, Handles.table]
  dsimp only
  rcases Json.lookup? name entries with _ | (_ | _ | _ | _ | _ | _) <;> rfl

end Promptbook
