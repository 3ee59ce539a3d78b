import Promptbook.Proofs.Beat.Valid
import Promptbook.Proofs.Trip.Ordered

/-!
# Ready-made beats play

The ready-made situations are made alike: one part for each character of the cast, between places
that are known, and lines of the first of them in order, each of which starts before the beat is
over.  `Beat.Prepared` says so, and the nine situations are only looked at to see that their beats
are prepared.  What their scenes show, before and after a trip through the layers, follows of all
prepared beats.  A name that no situation has, or a cast of the wrong size, has no beat.
-/

namespace Promptbook

/-! ## Parts -/

/-- Landmarks are on the stage or in the wings. -/
theorem Landmark.inBounds_place (l : Landmark) : (l.place : Place Float).InBounds := by
  cases l <;> decide

/-- What the parts of ready-made beats have in common. -/
structure Part.Prepared (p : Part Float) : Prop where
  valid : p.Valid
  shownEnd : p.shownEnd?.isSome
  voice : p.voice = none

/-- Whether some parts are those of a cast, all with one gesture or all with none. -/
structure Enacts (cast : List Character) (ps : List (Part Float)) : Prop where
  characters : ps.map Part.character = cast
  prepared : ∀ p ∈ ps, p.Prepared
  gesture : ∃ g, ∀ p ∈ ps, p.gesture = g

theorem enacts_one {p : Part Float} (hp : p.Prepared) : Enacts [p.character] [p] where
  characters := rfl
  prepared := List.forall_mem_singleton.2 hp
  gesture := ⟨p.gesture, List.forall_mem_singleton.2 rfl⟩

theorem enacts_two {p q : Part Float} (hp : p.Prepared) (hq : q.Prepared)
    (hgesture : p.gesture = q.gesture) : Enacts [p.character, q.character] [p, q] where
  characters := rfl
  prepared := List.forall_mem_cons.2 ⟨hp, List.forall_mem_singleton.2 hq⟩
  gesture := ⟨q.gesture, List.forall_mem_cons.2 ⟨hgesture, List.forall_mem_singleton.2 rfl⟩⟩

namespace Template

variable {c : Character} {mood : Mood} {intensity : Float} {facing : Facing}
  {gesture : Option GestureKind}

theorem prepared_act {kind : MovementKind} {origin target : Place Float} {speed : Speed}
    (horigin : origin.InBounds) (htarget : target.InBounds)
    (hintensity : 0.0 ≤ intensity ∧ intensity ≤ 1.0) :
    (act c ⟨kind, some origin, some target, speed⟩ mood intensity facing gesture).Prepared where
  valid := by
    refine ⟨?_, hintensity, nofun⟩
    change ∀ q ∈ [origin, target], q.InBounds
    rw [List.forall_mem_cons, List.forall_mem_singleton]
    exact ⟨horigin, htarget⟩
  shownEnd := by cases kind <;> rfl
  voice := rfl

theorem prepared_go {kind : MovementKind} {origin target : Landmark} {speed : Speed}
    (hintensity : 0.0 ≤ intensity ∧ intensity ≤ 1.0) :
    (act c (go kind origin target speed) mood intensity facing gesture).Prepared :=
  prepared_act origin.inBounds_place target.inBounds_place hintensity

theorem prepared_stay {l : Landmark} (hintensity : 0.0 ≤ intensity ∧ intensity ≤ 1.0) :
    (act c (stay l) mood intensity facing gesture).Prepared where
  valid := by
    refine ⟨?_, hintensity, nofun⟩
    change ∀ q ∈ [l.place], q.InBounds
    rw [List.forall_mem_singleton]
    exact l.inBounds_place
  shownEnd := rfl
  voice := rfl

/-- Everybody in a celebration claps. -/
theorem enacts_celebration (cs : List Character) :
    Enacts cs (cs.zipIdx.map fun (c, rank) =>
      act c (stay (celebrationPlace rank)) .excited 1.0 .forward (some .clap)) where
  characters := by
    rw [List.map_map]
    exact List.zipIdx_map_fst 0 cs
  prepared := by
    rw [List.forall_mem_map]
    exact fun _ _ => prepared_stay (by decide)
  gesture := by
    refine ⟨some ⟨.clap, none⟩, ?_⟩
    rw [List.forall_mem_map]
    exact fun _ _ => rfl

end Template

/-! ## Lines -/

/-- Whether a time has come before another one, also when both are cut to milliseconds. -/
def Punctual (delay duration : Float) : Prop :=
  0.0 ≤ delay ∧ ((millis delay).toOption.any fun m =>
    (millis duration).toOption.any fun n => m < n) = true

instance (delay duration : Float) : Decidable (Punctual delay duration) :=
  inferInstanceAs (Decidable (_ ∧ _))

theorem Punctual.exists_lt {delay duration : Float} (h : Punctual delay duration) :
    ∃ m n, millis delay = .ok m ∧ millis duration = .ok n ∧ m < n := by
  obtain ⟨-, h⟩ := h
  cases hm : millis delay with
  | error e =>
    rw [hm] at h
    cases h
  | ok m =>
    cases hn : millis duration with
    | error e =>
      rw [hm, hn] at h
      cases h
    | ok n =>
      rw [hm, hn] at h
      exact ⟨m, n, rfl, rfl, of_decide_eq_true h⟩

/-- Whether some lines are spoken in time, one after the other by the first of some characters. -/
structure Spoken (duration : Float) (ids : List Spelling) (ls : List (Line Float)) : Prop where
  typingSpeed : ∀ l ∈ ls, l.typingSpeed = usualTypingSpeed
  punctual : ∀ l ∈ ls, Punctual l.delay duration
  nodup : (ls.map (·.id)).Nodup
  speakers : ls.map (·.characterId) <+: ids

theorem spoken_none (duration : Float) (ids : List Spelling) : Spoken duration ids [] where
  typingSpeed := List.forall_mem_nil _
  punctual := List.forall_mem_nil _
  nodup := List.nodup_nil
  speakers := List.nil_prefix

namespace Template

variable {id s t : Spelling} {a b : Character} {ids : List Spelling} {m n : Mood}
  {delay delay' duration : Float}

/-- The first line and the second have different ids. -/
theorem line_id_ne : (line id 1 a s m delay).id ≠ (line id 2 b t n delay').id := by
  intro h
  have hpoints := List.append_cancel_left (congrArg Spelling.points h)
  exact absurd hpoints (by decide)

theorem spoken_one (h : Punctual delay duration) :
    Spoken duration (a.id :: ids) [line id 1 a s m delay] where
  typingSpeed := List.forall_mem_singleton.2 rfl
  punctual := List.forall_mem_singleton.2 h
  nodup := List.nodup_singleton _
  speakers := List.prefix_append [a.id] ids

theorem spoken_two (h : Punctual delay duration) (h' : Punctual delay' duration) :
    Spoken duration (a.id :: b.id :: ids)
      [line id 1 a s m delay, line id 2 b t n delay'] where
  typingSpeed := List.forall_mem_cons.2 ⟨rfl, List.forall_mem_singleton.2 rfl⟩
  punctual := List.forall_mem_cons.2 ⟨h, List.forall_mem_singleton.2 h'⟩
  nodup := List.nodup_cons.2 ⟨by simpa using line_id_ne, List.nodup_singleton _⟩
  speakers := List.prefix_append [a.id, b.id] ids

end Template

/-! ## Beats -/

/-- What ready-made beats have in common. -/
structure Beat.Prepared (cast : List Character) (b : Beat Float) : Prop where
  duration : 0.0 < b.duration ∧ ∃ n, millis b.duration = .ok n
  parts : Enacts cast b.layers.parts
  lines : Spoken b.duration (cast.map (·.id)) b.layers.lines
  lighting : b.layers.lighting = none
  sound : b.layers.sound = none

namespace Template

/-- Whether the places of an entrance are on the stage or in the wings.  All other situations have
places of their own. -/
def Valid : Template Float → Prop
  | entrance _ origin target _ => origin.InBounds ∧ target.InBounds
  | _ => True

theorem prepared_mk {id name description : Spelling} {duration : Float} {cast : List Character}
    {ps : List (Part Float)} {backdrop : Option Backdrop} {ls : List (Line Float)}
    (hduration : 0.0 < duration ∧ ∃ n, millis duration = .ok n) (hparts : Enacts cast ps)
    (hlines : Spoken duration (cast.map (·.id)) ls) :
    (⟨id, name, description, duration, ⟨ps, backdrop, none, none, ls⟩⟩ : Beat Float).Prepared
      cast :=
  ⟨hduration, hparts, hlines, rfl, rfl⟩

/-- Every ready-made beat is prepared. -/
theorem prepared {t : Template Float} (ht : t.Valid) (id : Spelling) :
    (t.beat id).Prepared t.cast := by
  have hthree : 0.0 < (3.0 : Float) ∧ ∃ n, millis 3.0 = .ok n := ⟨by decide, 3000, by decide +kernel⟩
  have hfour : 0.0 < (4.0 : Float) ∧ ∃ n, millis 4.0 = .ok n := ⟨by decide, 4000, by decide +kernel⟩
  have hfive : 0.0 < (5.0 : Float) ∧ ∃ n, millis 5.0 = .ok n := ⟨by decide, 5000, by decide +kernel⟩
  cases t with
  | firstMeeting a b s t =>
    refine prepared_mk hfour (enacts_two (prepared_go ?_) (prepared_go ?_) rfl)
      (spoken_two ?_ ?_) <;> decide +kernel
  | awkwardSilence a b =>
    refine prepared_mk hthree (enacts_two (prepared_stay ?_) (prepared_stay ?_) rfl)
      (spoken_none ..) <;> decide
  | confrontation a b s t =>
    refine prepared_mk hfive (enacts_two (prepared_go ?_) (prepared_go ?_) rfl)
      (spoken_two ?_ ?_) <;> decide +kernel
  | stepBack c s =>
    refine prepared_mk hthree (enacts_one (prepared_go ?_)) (spoken_one ?_) <;> decide +kernel
  | confession a b s =>
    refine prepared_mk hfive (enacts_two (prepared_go ?_) (prepared_stay ?_) rfl)
      (spoken_one ?_) <;> decide +kernel
  | celebration cs s =>
    refine prepared_mk hfour (enacts_celebration cs) ?_
    cases cs with
    | nil => exact spoken_none ..
    | cons c cs => exact spoken_one (by decide +kernel)
  | farewell a b s t =>
    refine prepared_mk hfive (enacts_two (prepared_go ?_) (prepared_go ?_) rfl)
      (spoken_two ?_ ?_) <;> decide +kernel
  | monologue c s =>
    refine prepared_mk hfour (enacts_one (prepared_stay ?_)) (spoken_one ?_) <;> decide +kernel
  | entrance c origin target greeting =>
    refine prepared_mk hthree (enacts_one (prepared_act ht.1 ht.2 (by decide))) ?_
    cases greeting with
    | none => exact spoken_none ..
    | some text => exact spoken_one (by decide +kernel)

end Template

namespace Beat.Prepared

variable {η : Type} {h : Handles η} {size : StageSize} {cast : List Character} {b : Beat Float}
  (hb : b.Prepared cast)

include hb

theorem valid : b.Valid where
  duration := hb.duration.1
  parts := fun p hp => (hb.parts.prepared p hp).valid
  brightness := by
    rw [hb.lighting]
    nofun
  cues := by
    rw [hb.sound]
    nofun
  lines := by
    intro l hl
    refine ⟨(hb.lines.punctual l hl).1, ?_⟩
    rw [hb.lines.typingSpeed l hl]
    decide

theorem ids_eq : b.ids = cast.map (·.id) := by
  rw [← hb.parts.characters, List.map_map]
  rfl

theorem speakers : b.speakers <+: b.ids := by
  rw [hb.ids_eq]
  exact hb.lines.speakers

theorem gesturing : b.gesturing = [] ∨ b.gesturing = b.ids := by
  obtain ⟨g, hg⟩ := hb.parts.gesture
  rw [Beat.gesturing]
  cases g with
  | none =>
    refine .inl ?_
    rw [List.map_eq_nil_iff, List.filter_eq_nil_iff]
    exact fun p hp => by simp [hg p hp]
  | some g =>
    refine .inr ?_
    rw [List.filter_eq_self.2 fun p hp => by simp [hg p hp], ids]

/-- A trip through the layers keeps a cast with different ids in order. -/
theorem inOrder (hcast : (cast.map (·.id)).Nodup) : b.InOrder cast where
  characters := hb.parts.characters
  nodup := hcast
  shownEnd := fun p hp => (hb.parts.prepared p hp).shownEnd
  speakers := hb.speakers
  gesturing := hb.gesturing

theorem exists_scene (h : Handles η) (size : StageSize) : ∃ s, b.scene h size = .ok s := by
  refine exists_scene_iff.2 ⟨fun l hl => ?_, hb.duration.2⟩
  obtain ⟨m, -, hm, -⟩ := (hb.lines.punctual l hl).exists_lt
  exact ⟨m, hm⟩

/-- Every speaker has a figure. -/
theorem exists_speaker? (h : Handles η) (size : StageSize) {l : Line Float}
    (hl : l ∈ b.layers.lines) : ∃ c, speaker? (b.figures h size) l.characterId = some c := by
  have hid : l.characterId ∈ b.ids := hb.speakers.subset (List.mem_map_of_mem hl)
  rw [speaker?_figures]
  obtain ⟨p, hp⟩ := Option.isSome_iff_exists.1 (isSome_partOf?_iff.2 hid)
  exact ⟨p.figure h size, by rw [show b.layers.parts.find? _ = some p from hp]; rfl⟩

end Beat.Prepared

/-! ## Scenes -/

/-- Whether a bubble shows a line in a scene: with its text, at the first figure with the id of its
speaker, and before the scene is over. -/
structure Scene.Speaks {η : Type} (s : Scene η) (l : Line Float) (u : Bubble) : Prop where
  text : u.text = l.text
  anchor : ∃ c, speaker? s.figures l.characterId = some c ∧ u.speaker = some c.name ∧
    u.position = ⟨c.position.x + 40.0, c.position.y + -60.0⟩
  delayMillis : u.delayMillis < s.durationMillis

/-- In the scene of a prepared beat every line is spoken by a figure. -/
theorem Beat.Prepared.speaks {η : Type} {h : Handles η} {size : StageSize} {cast : List Character}
    {b : Beat Float} (hb : b.Prepared cast) {s : Scene η} (hs : b.scene h size = .ok s) :
    List.Forall₂ s.Speaks b.layers.lines s.bubbles := by
  obtain ⟨bubbles, n, hbubbles, hn, rfl⟩ := scene_eq_ok_iff.1 hs
  have hmem : ∀ l ∈ b.layers.lines, l ∈ b.layers.lines := fun _ hl => hl
  refine ((List.forall₂_and_left _ _).2 ⟨hmem, hbubbles⟩).imp fun l u ⟨hl, hu⟩ => ?_
  obtain ⟨m, hm, rfl⟩ := Line.bubble_eq_ok_iff.1 hu
  obtain ⟨c, hc⟩ := hb.exists_speaker? h size hl
  refine ⟨rfl, ⟨c, hc, ?_, ?_⟩, ?_⟩
  · rw [Line.bubbleAfter, hc, Option.map_some]
  · rw [Line.bubbleAfter, hc, bubblePoint]
  · obtain ⟨m', n', hm', hn', hlt⟩ := (hb.lines.punctual l hl).exists_lt
    obtain rfl : m = m' := Except.ok.inj (hm.symm.trans hm')
    obtain rfl : n = n' := Except.ok.inj (hn.symm.trans hn')
    exact hlt

/-! ## Names and casts -/

namespace Template

/-- The situation that a ready-made beat shows. -/
def situation {α : Type} : Template α → Situation
  | firstMeeting .. => .firstMeeting
  | awkwardSilence .. => .awkwardSilence
  | confrontation .. => .confrontation
  | stepBack .. => .stepBack
  | confession .. => .confession
  | celebration .. => .celebration
  | farewell .. => .farewell
  | monologue .. => .monologue
  | entrance .. => .entrance

theorem named_word (s : Situation) (cast : List Character) :
    (named (Vocabulary.word s) cast : Except TemplateFault (Template Float)) =
      (s.template? cast).elim (.error (.castSize s (s.castSize.getD 0) cast.length)) .ok := by
  rw [named, Spelling.text?_ofString, Option.bind_some, Vocabulary.ofWord?_word]

/-- A situation has a ready-made beat for every cast of the size that it takes. -/
theorem exists_template? {s : Situation} {cast : List Character}
    (hcast : ∀ n ∈ s.castSize, cast.length = n) :
    ∃ t : Template Float, s.template? cast = some t ∧ t.situation = s ∧ t.cast = cast ∧
      t.Valid := by
  cases s with
  | celebration => exact ⟨_, rfl, rfl, rfl, trivial⟩
  | firstMeeting | awkwardSilence | confrontation | confession | farewell =>
    obtain ⟨a, b, rfl⟩ := List.length_eq_two.1 (hcast 2 rfl)
    exact ⟨_, rfl, rfl, rfl, trivial⟩
  | stepBack | monologue =>
    obtain ⟨c, rfl⟩ := List.length_eq_one_iff.1 (hcast 1 rfl)
    exact ⟨_, rfl, rfl, rfl, trivial⟩
  | entrance =>
    obtain ⟨c, rfl⟩ := List.length_eq_one_iff.1 (hcast 1 rfl)
    exact ⟨_, rfl, rfl, rfl, Landmark.inBounds_place _, Landmark.inBounds_place _⟩

/-- It has none for a cast of another size. -/
theorem template?_eq_none {s : Situation} {cast : List Character} {n : Nat}
    (hsize : s.castSize = some n) (hcast : cast.length ≠ n) :
    (s.template? cast : Option (Template Float)) = none := by
  cases s with
  | celebration => cases hsize
  | firstMeeting | awkwardSilence | confrontation | confession | farewell =>
    obtain rfl := Option.some.inj hsize
    rcases cast with _ | ⟨a, _ | ⟨b, _ | ⟨c, cast⟩⟩⟩
    · rfl
    · rfl
    · exact absurd rfl hcast
    · rfl
  | stepBack | monologue | entrance =>
    obtain rfl := Option.some.inj hsize
    rcases cast with _ | ⟨a, _ | ⟨b, cast⟩⟩
    · rfl
    · exact absurd rfl hcast
    · rfl

theorem named_of_forall_ne {name : Spelling} {cast : List Character}
    (h : ∀ s : Situation, name ≠ (Vocabulary.word s : Spelling)) :
    (named name cast : Except TemplateFault (Template Float)) = .error (.unknown name) := by
  rw [named]
  cases hword : name.text?.bind (Vocabulary.ofWord? (inferInstance : Vocabulary Situation)) with
  | none => rfl
  | some s =>
    obtain ⟨text, htext, hs⟩ := Option.bind_eq_some_iff.1 hword
    rw [Spelling.text?_eq_some_iff, ← Vocabulary.word_of_ofWord? hs] at htext
    exact absurd htext (h s)

theorem named_of_castSize {s : Situation} {cast : List Character} {n : Nat}
    (hsize : s.castSize = some n) (hcast : cast.length ≠ n) :
    (named (Vocabulary.word s) cast : Except TemplateFault (Template Float)) =
      .error (.castSize s n cast.length) := by
  rw [named_word, template?_eq_none hsize hcast, hsize]
  rfl

/-- What becomes of a name and a cast: the name is unknown, or the cast has the wrong size for the
situation with the name, or there is a ready-made beat. -/
theorem named_cases (name : Spelling) (cast : List Character) :
    ((∀ s : Situation, name ≠ (Vocabulary.word s : Spelling)) ∧
      (named name cast : Except TemplateFault (Template Float)) = .error (.unknown name)) ∨
    (∃ (s : Situation) (n : Nat), name = (Vocabulary.word s : Spelling) ∧
      s.castSize = some n ∧ cast.length ≠ n ∧
      (named name cast : Except TemplateFault (Template Float)) =
        .error (.castSize s n cast.length)) ∨
    ∃ t : Template Float, named name cast = .ok t := by
  by_cases hname : ∃ s : Situation, name = (Vocabulary.word s : Spelling)
  · obtain ⟨s, rfl⟩ := hname
    right
    by_cases hcast : ∀ n ∈ s.castSize, cast.length = n
    · obtain ⟨t, ht, -⟩ := exists_template? hcast
      exact .inr ⟨t, by rw [named_word, ht, Option.elim_some]⟩
    · push Not at hcast
      obtain ⟨n, hsize, hne⟩ := hcast
      exact .inl ⟨s, n, rfl, hsize, hne, named_of_castSize hsize hne⟩
  · rw [not_exists] at hname
    exact .inl ⟨hname, named_of_forall_ne hname⟩

/-- A name is unknown exactly when no situation has it. -/
theorem named_eq_unknown_iff {name unknown : Spelling} {cast : List Character} :
    (named name cast : Except TemplateFault (Template Float)) = .error (.unknown unknown) ↔
      unknown = name ∧ ∀ s : Situation, name ≠ (Vocabulary.word s : Spelling) := by
  constructor
  · intro h
    rcases named_cases name cast with ⟨hname, hnamed⟩ | ⟨s, n, -, -, -, hnamed⟩ | ⟨t, hnamed⟩ <;>
      rw [hnamed] at h <;> cases h
    exact ⟨rfl, hname⟩
  · rintro ⟨rfl, hname⟩
    exact named_of_forall_ne hname

/-- A cast has the wrong size exactly when the situation with the name takes another number of
characters. -/
theorem named_eq_castSize_iff {name : Spelling} {cast : List Character} {s : Situation}
    {expected found : Nat} :
    (named name cast : Except TemplateFault (Template Float)) =
        .error (.castSize s expected found) ↔
      name = (Vocabulary.word s : Spelling) ∧ s.castSize = some expected ∧
        found = cast.length ∧ found ≠ expected := by
  constructor
  · intro h
    rcases named_cases name cast with
      ⟨-, hnamed⟩ | ⟨s', n, hname, hsize, hne, hnamed⟩ | ⟨t, hnamed⟩ <;>
      rw [hnamed] at h <;> cases h
    exact ⟨hname, hsize, rfl, hne⟩
  · rintro ⟨rfl, hsize, rfl, hne⟩
    exact named_of_castSize hsize hne

end Template

/-! ## Every ready-made beat -/

/-- Ready-made beats play.  A name that no situation has is refused, and so is a cast of another
size than the situation takes; otherwise there is a ready-made beat.  Whatever its lines say, and
between whatever places an entrance leads, the beat is valid, its parts are the characters of the
cast in order, and its lines have different ids; a scene can be made of it on any stage, in which
every line is spoken by a figure before the scene is over; and where the characters have different
ids, the scene after a trip through the layers shows the same characters in the same order at the
same places, with the same bubbles and as long. -/
theorem template_plays {η : Type} (h : Handles η) (size : StageSize) :
    (∀ (name : Spelling) (cast : List Character),
      (∀ unknown, (Template.named name cast : Except TemplateFault (Template Float)) =
          .error (.unknown unknown) ↔
        unknown = name ∧ ∀ s : Situation, name ≠ (Vocabulary.word s : Spelling)) ∧
      ∀ s expected found, (Template.named name cast : Except TemplateFault (Template Float)) =
          .error (.castSize s expected found) ↔
        name = (Vocabulary.word s : Spelling) ∧ s.castSize = some expected ∧
          found = cast.length ∧ found ≠ expected) ∧
    (∀ (s : Situation) (cast : List Character), (∀ n ∈ s.castSize, cast.length = n) →
      ∃ t : Template Float, Template.named (Vocabulary.word s) cast = .ok t ∧
        t.situation = s ∧ t.cast = cast ∧ t.Valid) ∧
    ∀ t : Template Float, t.Valid → ∀ id : Spelling,
      (t.beat id).Valid ∧ (t.beat id).layers.parts.map Part.character = t.cast ∧
      ((t.beat id).layers.lines.map (·.id)).Nodup ∧
      ∃ s, (t.beat id).scene h size = .ok s ∧
        List.Forall₂ s.Speaks (t.beat id).layers.lines s.bubbles ∧
        ((t.cast.map (·.id)).Nodup → ∀ d : Directory, ∃ s',
          (((t.beat id).layered d).flatten t.cast).scene h size = .ok s' ∧
            s'.figures.map Figure.cue = s.figures.map Figure.cue ∧ s'.bubbles = s.bubbles ∧
            s'.durationMillis = s.durationMillis) := by
  refine ⟨fun name cast => ?_, ?_, ?_⟩
  · exact ⟨fun _ => Template.named_eq_unknown_iff, fun _ _ _ => Template.named_eq_castSize_iff⟩
  · intro s cast hcast
    obtain ⟨t, ht, hproperties⟩ := Template.exists_template? hcast
    refine ⟨t, ?_, hproperties⟩
    rw [Template.named_word, ht, Option.elim_some]
  · intro t ht id
    have hb := Template.prepared ht id
    obtain ⟨s, hs⟩ := hb.exists_scene h size
    refine ⟨hb.valid, hb.parts.characters, hb.lines.nodup, s, hs, hb.speaks hs, fun hcast d => ?_⟩
    exact (hb.inOrder hcast).exists_scene_flatten (fun p hp => (hb.parts.prepared p hp).voice)
      hb.lines.typingSpeed d hs

/-- Three friends celebrate, and one of them comes in through the audience to greet them; but there
is no party by that name, and nobody takes leave alone. -/
theorem template_plays_party :
    let anna : Character := ⟨"anna", "Anna", .female⟩
    let ben : Character := ⟨"ben", "Ben", .male⟩
    let cleo : Character := ⟨"cleo", "Cleo", .female⟩
    let entry : Template Float := .entrance cleo ⟨0.5, 1.0⟩ ⟨0.25, 0.7⟩ (some "Am I late?")
    let named (name : Spelling) (cast : List Character) : Except TemplateFault (Template Float) :=
      Template.named name cast
    named "party" [anna, ben, cleo] = .error (.unknown "party") ∧
    named "farewell" [anna] = .error (.castSize .farewell 2 1) ∧
    (∃ t : Template Float, named "celebration" [anna, ben, cleo] = .ok t ∧
      t.cast = [anna, ben, cleo] ∧ t.Valid) ∧
    (entry.beat "b").Valid ∧
    ∃ s s', (entry.beat "b").scene Handles.names .usual = .ok s ∧
      (((entry.beat "b").layered []).flatten [cleo]).scene Handles.names .usual = .ok s' ∧
      s'.bubbles = s.bubbles := by
  intro anna ben cleo entry named
  obtain ⟨hrefused, hnamed, hplays⟩ := template_plays Handles.names .usual
  have hunknown : named "party" [anna, ben, cleo] = .error (.unknown "party") :=
    ((hrefused _ _).1 _).2 ⟨rfl, fun s => by cases s <;> decide⟩
  have hsize : named "farewell" [anna] = .error (.castSize .farewell 2 1) :=
    ((hrefused _ _).2 _ _ _).2 ⟨rfl, rfl, rfl, by decide⟩
  have hcast : ∀ n ∈ Situation.castSize .celebration, [anna, ben, cleo].length = n := nofun
  obtain ⟨t, ht, -, htcast, hvalid⟩ := hnamed .celebration [anna, ben, cleo] hcast
  have hplaces : entry.Valid := ⟨by decide, by decide⟩
  obtain ⟨hentry, -, -, s, hs, -, htrip⟩ := hplays entry hplaces "b"
  obtain ⟨s', hs', -, hbubbles, -⟩ := htrip (by decide) []
  exact ⟨hunknown, hsize, ⟨t, ht, htcast, hvalid⟩, hentry, s, s', hs, hs', hbubbles⟩

end Promptbook
