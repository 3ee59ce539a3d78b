import Promptbook.Beat.Basic
import Promptbook.Stage.Landmark

/-!
# Ready-made beats

Dramatic situations that need nothing but an id and a cast.  Each comes with lines of its own,
which may be exchanged.
-/

namespace Promptbook

/-- The name of a ready-made situation. -/
inductive Situation where
  | firstMeeting
  | awkwardSilence
  | confrontation
  | stepBack
  | confession
  | celebration
  | farewell
  | monologue
  | entrance
  deriving DecidableEq, Repr

namespace Situation

instance : Vocabulary Situation where
  title := "template"
  all := [.firstMeeting, .awkwardSilence, .confrontation, .stepBack, .confession, .celebration,
    .farewell, .monologue, .entrance]
  word
    | .firstMeeting => "first_meeting"
    | .awkwardSilence => "awkward_silence"
    | .confrontation => "confrontation"
    | .stepBack => "step_back"
    | .confession => "confession"
    | .celebration => "celebration"
    | .farewell => "farewell"
    | .monologue => "monologue"
    | .entrance => "entrance"
  mem_all t := by cases t <;> decide
  nodup := by decide

/-- How many characters a situation takes; a celebration takes any number. -/
def castSize : Situation → Option Nat
  | firstMeeting | awkwardSilence | confrontation | confession | farewell => some 2
  | stepBack | monologue | entrance => some 1
  | celebration => none

end Situation

/-- A ready-made situation with its cast and its lines. -/
inductive Template (α : Type) where
  | firstMeeting (a b : Character) (greetingA greetingB : Spelling)
  | awkwardSilence (a b : Character)
  | confrontation (a b : Character) (lineA lineB : Spelling)
  | stepBack (c : Character) (line : Spelling)
  | confession (confessor listener : Character) (line : Spelling)
  | celebration (cast : List Character) (cheer : Spelling)
  | farewell (a b : Character) (farewellA farewellB : Spelling)
  | monologue (c : Character) (thought : Spelling)
  | entrance (c : Character) (origin target : Place α) (greeting : Option Spelling)
  deriving DecidableEq, Repr

/-- Why there is no ready-made beat. -/
inductive TemplateFault where
  | unknown (name : Spelling)
  | castSize (s : Situation) (expected found : Nat)
  deriving DecidableEq, Repr

/-- The wording of a missing ready-made beat. -/
def TemplateFault.message : TemplateFault → String
  | unknown name => Text.quoted name
  | castSize s expected found =>
    "template '" ++ Vocabulary.word s ++ "' takes " ++ Text.decimal expected ++
      " character(s), got " ++ Text.decimal found

variable {α : Type} [Measure α]

/-- A situation with its own lines, for a cast of the right size. -/
def Situation.template? : Situation → List Character → Option (Template α)
  | firstMeeting, [a, b] => some (.firstMeeting a b "Hello!" "Nice to meet you!")
  | awkwardSilence, [a, b] => some (.awkwardSilence a b)
  | confrontation, [a, b] =>
    some (.confrontation a b "Why on earth did you do that?" "I had no other choice!")
  | stepBack, [c] => some (.stepBack c "Wait... I need time to think")
  | confession, [a, b] => some (.confession a b "The truth is... I like you")
  | celebration, cast => some (.celebration cast "We did it!")
  | farewell, [a, b] => some (.farewell a b "Take care..." "See you next time")
  | monologue, [c] => some (.monologue c "What should I do...")
  | entrance, [c] => some (.entrance c Landmark.offStageLeft.place Landmark.center.place none)
  | _, _ => none

namespace Template

/-- The ready-made situation with a name, for a cast. -/
def named (name : Spelling) (cast : List Character) : Except TemplateFault (Template α) :=
  match name.text?.bind (Vocabulary.ofWord? inferInstance) with
  | none => .error (.unknown name)
  | some (s : Situation) =>
    (s.template? cast).elim (.error (.castSize s (s.castSize.getD 0) cast.length)) .ok

/-- The characters of a ready-made situation. -/
def cast : Template α → List Character
  | firstMeeting a b _ _ | awkwardSilence a b | confrontation a b _ _ | confession a b _
  | farewell a b _ _ => [a, b]
  | stepBack c _ | monologue c _ | entrance c _ _ _ => [c]
  | celebration cast _ => cast

/-- The part of a character of the cast. -/
def act (c : Character) (movement : Movement α) (mood : Mood) (intensity : α) (facing : Facing)
    (gesture : Option GestureKind) : Part α where
  characterId := c.id
  name := c.name
  gender := c.gender
  movement := movement
  emotion := ⟨mood, intensity⟩
  gesture := gesture.map fun k => ⟨k, none⟩
  facing := facing
  voice := none

/-- The movement that keeps to a landmark. -/
def stay (l : Landmark) : Movement α := ⟨.stay, some l.place, none, .normal⟩

/-- The movement from one landmark to another. -/
def go (kind : MovementKind) (origin target : Landmark) (speed : Speed) : Movement α :=
  ⟨kind, some origin.place, some target.place, speed⟩

/-- The numbered line of a character of the cast. -/
def line (beatId : Spelling) (n : Nat) (c : Character) (text : Spelling) (mood : Mood) (delay : α) :
    Line α :=
  ⟨beatId ++ ":line-" ++ Text.decimal n, c.id, text, mood, delay, usualTypingSpeed⟩

/-- Where the characters of a celebration stand; the third and all later ones share a place. -/
def celebrationPlace (rank : Nat) : Landmark :=
  match rank with
  | 0 => .left
  | 1 => .center
  | _ => .right

/-- The beat of a ready-made situation. -/
def beat (id : Spelling) : Template α → Beat α
  | firstMeeting a b greetingA greetingB =>
    ⟨id, "First meeting", "Two people meet for the first time", 4.0, {
      Layers.empty with
      parts := [
        act a (go .enter .offStageLeft .left .normal) .excited 0.6 .right none,
        act b (go .enter .offStageRight .right .normal) .happy 0.5 .left none]
      backdrop := some ⟨.stageFloor, none, .cut⟩
      lines := [line id 1 a greetingA .happy 1.5, line id 2 b greetingB .happy 2.5] }⟩
  | awkwardSilence a b =>
    ⟨id, "Awkward silence", "Both are painfully aware of each other", 3.0, {
      Layers.empty with
      parts := [
        act a (stay .left) .nervous 0.7 .right none,
        act b (stay .right) .shy 0.6 .left none] }⟩
  | confrontation a b lineA lineB =>
    ⟨id, "Confrontation", "A tense standoff between two people", 5.0, {
      Layers.empty with
      parts := [
        act a (go .approach .left .leftFront .fast) .angry 0.8 .right none,
        act b (go .retreat .right .rightFront .normal) .annoyed 0.7 .left none]
      lines := [line id 1 a lineA .angry 0.5, line id 2 b lineB .annoyed 2.5] }⟩
  | stepBack c text =>
    ⟨id, "Step back", "Flustered, backing away", 3.0, {
      Layers.empty with
      parts := [act c (go .retreat .center .right .fast) .confused 0.8 .left none]
      lines := [line id 1 c text .confused 1.0] }⟩
  | confession a b text =>
    ⟨id, "Confession", "Finding the courage to confess", 5.0, {
      Layers.empty with
      parts := [
        act a (go .approach .left .centerFront .slow) .nervous 0.9 .right none,
        act b (stay .right) .surprised 0.8 .left none]
      lines := [line id 1 a text .nervous 2.0] }⟩
  | celebration cs cheer =>
    ⟨id, "Celebration", "Cheering with joy", 4.0, {
      Layers.empty with
      parts := cs.zipIdx.map fun (c, rank) =>
        act c (stay (celebrationPlace rank)) .excited 1.0 .forward (some .clap)
      lines := cs.head?.toList.map fun c => line id 1 c cheer .excited 1.0 }⟩
  | farewell a b farewellA farewellB =>
    ⟨id, "Farewell", "A reluctant goodbye", 5.0, {
      Layers.empty with
      parts := [
        act a (go .exit .center .offStageLeft .slow) .sad 0.6 .right (some .wave),
        act b (go .exit .center .offStageRight .slow) .sad 0.5 .left (some .wave)]
      lines := [line id 1 a farewellA .sad 1.0, line id 2 b farewellB .sad 2.5] }⟩
  | monologue c thought =>
    ⟨id, "Monologue", "Lost in thought, alone", 4.0, {
      Layers.empty with
      parts := [act c (stay .center) .confused 0.7 .forward none]
      lines := [line id 1 c thought .confused 1.0] }⟩
  | entrance c origin target greeting =>
    ⟨id, "Entrance", c.name ++ " enters", 3.0, {
      Layers.empty with
      parts := [act c ⟨.enter, some origin, some target, .normal⟩ .neutral 0.5 .forward none]
      lines := greeting.toList.map fun text => line id 1 c text .neutral 1.5 }⟩

end Template

end Promptbook
