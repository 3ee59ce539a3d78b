import Mathlib.Data.List.Forall2
import Promptbook.Scene.OfBeat

/-!
# When a beat becomes a scene

A beat becomes a scene when its duration and the delays of its lines have a value in milliseconds.
The statements here take a scene apart into its figures, its bubbles and its duration, so that
later proofs need not look into `Beat.scene`.
-/

namespace Promptbook

theorem mapM_eq_ok_iff {ε σ τ : Type} {f : σ → Except ε τ} {xs : List σ} {ys : List τ} :
    xs.mapM f = .ok ys ↔ List.Forall₂ (fun x y => f x = .ok y) xs ys := by
  induction xs generalizing ys with
  | nil => cases ys <;> simp [pure, Except.pure]
  | cons x xs ih =>
    rw [List.mapM_cons]
    cases hx : f x with
    | error e => cases ys <;> simp [bind, Except.bind, hx]
    | ok y =>
      cases hxs : xs.mapM f with
      | error e => cases ys <;> simp [bind, Except.bind, ← ih, hxs]
      | ok zs => cases ys <;> simp [bind, Except.bind, pure, Except.pure, ← ih, hxs, hx]

/-- What fails item by item fails at one of the items. -/
theorem exists_of_mapM_eq_error {ε σ τ : Type} {f : σ → Except ε τ} {xs : List σ} {e : ε}
    (h : xs.mapM f = .error e) : ∃ x ∈ xs, f x = .error e := by
  induction xs with
  | nil => cases h
  | cons x xs ih =>
    rw [List.mapM_cons] at h
    cases hx : f x with
    | error e' =>
      rw [hx] at h
      cases h
      exact ⟨x, List.mem_cons_self, hx⟩
    | ok y =>
      rw [hx] at h
      cases hxs : xs.mapM f with
      | error e' =>
        change (xs.mapM f >>= _) = _ at h
        rw [hxs] at h
        cases h
        obtain ⟨x', hx', he⟩ := ih hxs
        exact ⟨x', List.mem_cons_of_mem x hx', he⟩
      | ok ys =>
        change (xs.mapM f >>= _) = _ at h
        rw [hxs] at h
        cases h

/-- Of several items that are made one after the other, the first that fails decides. -/
theorem mapM_append_cons_eq_error {ε σ τ : Type} {f : σ → Except ε τ} {xs : List σ} {x : σ}
    (ys : List σ) {e : ε} (hxs : ∀ x ∈ xs, ∃ t, f x = .ok t) (hx : f x = .error e) :
    (xs ++ x :: ys).mapM f = .error e := by
  induction xs with
  | nil =>
    rw [List.nil_append, List.mapM_cons, hx]
    rfl
  | cons y xs ih =>
    rw [List.forall_mem_cons] at hxs
    obtain ⟨t, ht⟩ := hxs.1
    rw [List.cons_append, List.mapM_cons, ht]
    change ((xs ++ x :: ys).mapM f >>= _) = _
    rw [ih hxs.2]
    rfl

/-- What is made item by item can be changed when each item has been made or at the end. -/
theorem mapM_eq_map_mapM {ε σ τ υ : Type} {f : σ → Except ε υ} {g : σ → Except ε τ} {k : τ → υ}
    (h : ∀ x, f x = (g x).map k) (xs : List σ) : xs.mapM f = (xs.mapM g).map (List.map k) := by
  induction xs with
  | nil => rfl
  | cons x xs ih =>
    rw [List.mapM_cons, List.mapM_cons, h, ih]
    cases g x with
    | error e => rfl
    | ok y => cases xs.mapM g <;> rfl

/-- A list can be paired off as soon as every item has a partner. -/
theorem exists_forall₂_iff {σ τ : Type} {R : σ → τ → Prop} {xs : List σ} :
    (∃ ys, List.Forall₂ R xs ys) ↔ ∀ x ∈ xs, ∃ y, R x y := by
  induction xs with
  | nil => simp
  | cons x xs ih =>
    rw [List.forall_mem_cons, ← ih]
    constructor
    · rintro ⟨ys, h⟩
      cases h with
      | cons hx hxs => exact ⟨⟨_, hx⟩, _, hxs⟩
    · rintro ⟨⟨y, hy⟩, ys, hys⟩
      exact ⟨y :: ys, .cons hy hys⟩

/-- What every item lets its partner be. -/
theorem forall_mem_of_forall₂ {σ τ : Type} {R : σ → τ → Prop} {P : τ → Prop} {xs : List σ}
    {ys : List τ} (h : List.Forall₂ R xs ys) (hP : ∀ x ∈ xs, ∀ y, R x y → P y) :
    ∀ y ∈ ys, P y := by
  induction h with
  | nil => exact List.forall_mem_nil P
  | cons hxy _ ih =>
    rw [List.forall_mem_cons] at hP ⊢
    exact ⟨hP.1 _ hxy, ih hP.2⟩

variable {η : Type}

/-- The bubble of a line that starts after some milliseconds. -/
def Line.bubbleAfter (figures : List (Figure η)) (l : Line Float) (delay : Int) : Bubble where
  text := l.text
  position := bubblePoint (speaker? figures l.characterId)
  speaker := (speaker? figures l.characterId).map (·.name)
  delayMillis := delay
  typingSpeed := l.typingSpeed
  voice := (speaker? figures l.characterId).map (·.voice)

theorem Line.bubble_eq_ok_iff {figures : List (Figure η)} {l : Line Float} {u : Bubble} :
    l.bubble figures = .ok u ↔
      ∃ n, millis l.delay = .ok n ∧ l.bubbleAfter figures n = u := by
  rw [bubble]
  cases millis l.delay with
  | error e => simp [Except.map]
  | ok n => simp [Except.map, bubbleAfter]

namespace Beat

/-- The figures of the parts of a beat. -/
def figures (h : Handles η) (size : StageSize) (b : Beat Float) : List (Figure η) :=
  b.layers.parts.map (·.figure h size)

variable {h : Handles η} {size : StageSize} {b : Beat Float}

/-- The scene of a beat with given bubbles and duration. -/
def sceneWith (h : Handles η) (size : StageSize) (b : Beat Float) (bubbles : List Bubble)
    (durationMillis : Int) : Scene η where
  backdrop := h.handle (Backdrop.picture b.layers.backdrop)
  figures := b.figures h size
  bubbles := bubbles
  durationMillis := durationMillis
  isEnding := false

theorem scene_eq (h : Handles η) (size : StageSize) (b : Beat Float) :
    b.scene h size = (b.layers.lines.mapM (Line.bubble (b.figures h size))).bind fun bubbles =>
      (millis b.duration).map (b.sceneWith h size bubbles) := by
  change (b.layers.lines.mapM (Line.bubble (b.figures h size)) >>= _) = _
  cases b.layers.lines.mapM (Line.bubble (b.figures h size)) with
  | error e => rfl
  | ok bubbles =>
    change (millis b.duration >>= _) = _
    cases millis b.duration <;> rfl

/-- A scene of a beat has one bubble for each line, in order, and its duration in milliseconds. -/
theorem scene_eq_ok_iff {s : Scene η} :
    b.scene h size = .ok s ↔ ∃ bubbles n,
      List.Forall₂ (fun l u => l.bubble (b.figures h size) = .ok u) b.layers.lines bubbles ∧
      millis b.duration = .ok n ∧ b.sceneWith h size bubbles n = s := by
  simp only [← mapM_eq_ok_iff, scene_eq]
  cases b.layers.lines.mapM (Line.bubble (b.figures h size)) with
  | error e => simp [Except.bind]
  | ok bubbles => cases millis b.duration <;> simp [Except.bind, Except.map]

/-- Only a delay or a duration without a value in milliseconds keeps a beat from becoming a
scene. -/
theorem exists_scene_iff :
    (∃ s, b.scene h size = .ok s) ↔
      (∀ l ∈ b.layers.lines, ∃ n, millis l.delay = .ok n) ∧ ∃ n, millis b.duration = .ok n := by
  have hbubble : ∀ l : Line Float, (∃ u, l.bubble (b.figures h size) = .ok u) ↔
      ∃ n, millis l.delay = .ok n := fun l => by
    simp only [Line.bubble_eq_ok_iff]
    exact ⟨fun ⟨_, n, hn, _⟩ => ⟨n, hn⟩, fun ⟨n, hn⟩ => ⟨_, n, hn, rfl⟩⟩
  simp only [← hbubble, ← exists_forall₂_iff, scene_eq_ok_iff]
  exact ⟨fun ⟨_, us, n, hus, hn, _⟩ => ⟨⟨us, hus⟩, n, hn⟩,
    fun ⟨⟨us, hus⟩, n, hn⟩ => ⟨_, us, n, hus, hn, rfl⟩⟩

/-- The speaker of a line is the figure of the part with its id. -/
theorem speaker?_figures (id : Spelling) :
    speaker? (b.figures h size) id =
      (b.layers.parts.find? fun p => p.characterId == id).map (·.figure h size) := by
  rw [speaker?, figures, List.find?_map]
  rfl

end Beat

end Promptbook
