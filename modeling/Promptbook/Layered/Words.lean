import Promptbook.Beat.Words

/-!
# The words of a layered beat

Where a layered beat is set, in which tone its lines are spoken, and which gestures go with a line
or stand alone.  Tones and stage gestures correspond to moods and gestures of a beat; where a mood
or gesture has no counterpart, one stands in for it.
-/

namespace Promptbook

/-- The place that a layered beat is set in. -/
inductive Location where
  | stageFloor
  | schoolPlayground
  | classroom
  | office
  | rooftop
  | convenienceStore
  | houseFront
  | subwayStation
  | busStop
  | restaurant
  | bedroom
  | livingRoom
  | kitchen
  | park
  | street
  deriving DecidableEq, Repr

instance : Vocabulary Location where
  title := "StageLocation"
  all := [.stageFloor, .schoolPlayground, .classroom, .office, .rooftop, .convenienceStore,
    .houseFront, .subwayStation, .busStop, .restaurant, .bedroom, .livingRoom, .kitchen, .park,
    .street]
  word
    | .stageFloor => "STAGE_FLOOR"
    | .schoolPlayground => "SCHOOL_PLAYGROUND"
    | .classroom => "CLASSROOM"
    | .office => "OFFICE"
    | .rooftop => "ROOFTOP"
    | .convenienceStore => "CONVENIENCE_STORE"
    | .houseFront => "HOUSE_FRONT"
    | .subwayStation => "SUBWAY_STATION"
    | .busStop => "BUS_STOP"
    | .restaurant => "RESTAURANT"
    | .bedroom => "BEDROOM"
    | .livingRoom => "LIVING_ROOM"
    | .kitchen => "KITCHEN"
    | .park => "PARK"
    | .street => "STREET"
  mem_all t := by cases t <;> decide
  nodup := by decide

/-- The tone in which a line is spoken. -/
inductive Tone where
  | calm
  | happy
  | sad
  | angry
  | surprised
  | fearful
  | excited
  | nervous
  | shy
  | annoyed
  deriving DecidableEq, Repr

namespace Tone

instance : Vocabulary Tone where
  title := "DialogueEmotion"
  all := [.calm, .happy, .sad, .angry, .surprised, .fearful, .excited, .nervous, .shy, .annoyed]
  word
    | .calm => "CALM"
    | .happy => "HAPPY"
    | .sad => "SAD"
    | .angry => "ANGRY"
    | .surprised => "SURPRISED"
    | .fearful => "FEARFUL"
    | .excited => "EXCITED"
    | .nervous => "NERVOUS"
    | .shy => "SHY"
    | .annoyed => "ANNOYED"
  mem_all t := by cases t <;> decide
  nodup := by decide

/-- The mood that a tone expresses. -/
def mood : Tone → Mood
  | calm => .neutral
  | happy => .happy
  | sad => .sad
  | angry => .angry
  | surprised => .surprised
  | fearful => .scared
  | excited => .excited
  | nervous => .nervous
  | shy => .shy
  | annoyed => .annoyed

/-- The tone that expresses a mood.  Confusion and disgust have none of their own and sound
annoyed. -/
def ofMood : Mood → Tone
  | .neutral => calm
  | .happy => happy
  | .sad => sad
  | .angry => angry
  | .surprised => surprised
  | .scared => fearful
  | .excited => excited
  | .nervous => nervous
  | .shy => shy
  | .annoyed | .confused | .disgusted => annoyed

@[simp] theorem ofMood_mood (t : Tone) : ofMood t.mood = t := by cases t <;> rfl

end Tone

/-- A gesture made while speaking. -/
inductive LineGesture where
  | none
  | clap
  | wave
  | nod
  | shakeHead
  | point
  | bow
  deriving DecidableEq, Repr

instance : Vocabulary LineGesture where
  title := "DialogueActionType"
  all := [.none, .clap, .wave, .nod, .shakeHead, .point, .bow]
  word
    | .none => "NONE"
    | .clap => "CLAP"
    | .wave => "WAVE"
    | .nod => "NOD"
    | .shakeHead => "SHAKE_HEAD"
    | .point => "POINT"
    | .bow => "BOW"
  mem_all t := by cases t <;> decide
  nodup := by decide

/-- The gesture that a beat shows for it, for those that have a sprite. -/
def LineGesture.kind? : LineGesture → Option GestureKind
  | clap => some .clap
  | wave => some .wave
  | bow => some .bow
  | _ => Option.none

/-- A gesture that stands alone. -/
inductive StageGesture where
  | idle
  | clap
  | dancing
  | wave
  | jump
  | bow
  | sing
  deriving DecidableEq, Repr

namespace StageGesture

instance : Vocabulary StageGesture where
  title := "StageActionType"
  all := [.idle, .clap, .dancing, .wave, .jump, .bow, .sing]
  word
    | .idle => "IDLE"
    | .clap => "CLAP"
    | .dancing => "DANCING"
    | .wave => "WAVE"
    | .jump => "JUMP"
    | .bow => "BOW"
    | .sing => "SING"
  mem_all t := by cases t <;> decide
  nodup := by decide

/-- The gesture that a beat shows for it; a jump has none. -/
def kind? : StageGesture → Option GestureKind
  | idle => some .stand
  | clap => some .clap
  | dancing => some .dance
  | wave => some .wave
  | bow => some .bow
  | sing => some .sing
  | jump => none

/-- The stage gesture for a gesture of a beat.  One without a counterpart becomes a wave. -/
def ofKind : GestureKind → StageGesture
  | .stand => idle
  | .clap => clap
  | .dance => dancing
  | .bow => bow
  | .sing => sing
  | .wave | .sit | .point | .hug | .push | .pull => wave

theorem ofKind_of_kind? {g : StageGesture} {k : GestureKind} (h : g.kind? = some k) :
    ofKind k = g := by
  cases g <;> cases h <;> rfl

end StageGesture

end Promptbook
