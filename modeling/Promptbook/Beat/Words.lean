import Promptbook.Vocabulary

/-!
# The words of a beat

What characters feel, do and look like, and what surrounds them.
-/

namespace Promptbook

/-- How a character moves during a beat. -/
inductive MovementKind where
  | enter
  | exit
  | move
  | stay
  | approach
  | retreat
  deriving DecidableEq, Repr

instance : Vocabulary MovementKind where
  title := "MovementType"
  all := [.enter, .exit, .move, .stay, .approach, .retreat]
  word
    | .enter => "enter"
    | .exit => "exit"
    | .move => "move"
    | .stay => "stay"
    | .approach => "approach"
    | .retreat => "retreat"
  mem_all t := by cases t <;> decide
  nodup := by decide

/-- How fast a character moves. -/
inductive Speed where
  | verySlow
  | slow
  | normal
  | fast
  | veryFast
  deriving DecidableEq, Repr

instance : Vocabulary Speed where
  title := "Speed"
  all := [.verySlow, .slow, .normal, .fast, .veryFast]
  word
    | .verySlow => "very_slow"
    | .slow => "slow"
    | .normal => "normal"
    | .fast => "fast"
    | .veryFast => "very_fast"
  mem_all t := by cases t <;> decide
  nodup := by decide

/-- The length in milliseconds of an animation at a speed. -/
def Speed.millis : Speed → Int
  | .verySlow => 2000
  | .slow => 1500
  | .normal => 1000
  | .fast => 600
  | .veryFast => 300

/-- Where a character looks; `forward` is towards the audience. -/
inductive Facing where
  | left
  | right
  | center
  | forward
  | backward
  deriving DecidableEq, Repr

instance : Vocabulary Facing where
  title := "Direction"
  all := [.left, .right, .center, .forward, .backward]
  word
    | .left => "LEFT"
    | .right => "RIGHT"
    | .center => "CENTER"
    | .forward => "FORWARD"
    | .backward => "BACKWARD"
  mem_all t := by cases t <;> decide
  nodup := by decide

/-- The sprite animation of a compiled character. -/
inductive Animation where
  | idle
  | idleAnnoyed
  | speakNormal
  | speakAngry
  | listening
  | walking
  | annoyed
  | clap
  | dancingTypeA
  | dancingTypeB
  | dancingTypeC
  | singNormal
  | singClimax
  | singPitchup
  deriving DecidableEq, Repr

instance : Vocabulary Animation where
  title := "AnimationType"
  all := [.idle, .idleAnnoyed, .speakNormal, .speakAngry, .listening, .walking, .annoyed, .clap,
    .dancingTypeA, .dancingTypeB, .dancingTypeC, .singNormal, .singClimax, .singPitchup]
  word
    | .idle => "idle"
    | .idleAnnoyed => "idle_annoyed"
    | .speakNormal => "speak_normal"
    | .speakAngry => "speak_angry"
    | .listening => "listening"
    | .walking => "walking"
    | .annoyed => "annoyed"
    | .clap => "clap"
    | .dancingTypeA => "dancing_type_a"
    | .dancingTypeB => "dancing_type_b"
    | .dancingTypeC => "dancing_type_c"
    | .singNormal => "sing_normal"
    | .singClimax => "sing_climax"
    | .singPitchup => "sing_pitchup"
  mem_all t := by cases t <;> decide
  nodup := by decide

/-- What a character feels. -/
inductive Mood where
  | neutral
  | happy
  | sad
  | angry
  | surprised
  | scared
  | disgusted
  | excited
  | nervous
  | confused
  | shy
  | annoyed
  deriving DecidableEq, Repr

namespace Mood

instance : Vocabulary Mood where
  title := "EmotionType"
  all := [.neutral, .happy, .sad, .angry, .surprised, .scared, .disgusted, .excited, .nervous,
    .confused, .shy, .annoyed]
  word
    | .neutral => "neutral"
    | .happy => "happy"
    | .sad => "sad"
    | .angry => "angry"
    | .surprised => "surprised"
    | .scared => "scared"
    | .disgusted => "disgusted"
    | .excited => "excited"
    | .nervous => "nervous"
    | .confused => "confused"
    | .shy => "shy"
    | .annoyed => "annoyed"
  mem_all t := by cases t <;> decide
  nodup := by decide

/-- The animation of a character in a mood that stands still and is silent. -/
def idle : Mood → Animation
  | angry | annoyed => .idleAnnoyed
  | sad | scared => .listening
  | _ => .idle

/-- The animation of a character in a mood that speaks. -/
def speaking : Mood → Animation
  | angry | annoyed => .speakAngry
  | happy | excited => .idle
  | sad | scared => .listening
  | _ => .speakNormal

end Mood

/-- What a character shows with its body. -/
inductive GestureKind where
  | wave
  | bow
  | sit
  | stand
  | clap
  | dance
  | sing
  | point
  | hug
  | push
  | pull
  deriving DecidableEq, Repr

instance : Vocabulary GestureKind where
  title := "GestureType"
  all := [.wave, .bow, .sit, .stand, .clap, .dance, .sing, .point, .hug, .push, .pull]
  word
    | .wave => "wave"
    | .bow => "bow"
    | .sit => "sit"
    | .stand => "stand"
    | .clap => "clap"
    | .dance => "dance"
    | .sing => "sing"
    | .point => "point"
    | .hug => "hug"
    | .push => "push"
    | .pull => "pull"
  mem_all t := by cases t <;> decide
  nodup := by decide

/-- The animation of a gesture, for those that have a sprite. -/
def GestureKind.animation? : GestureKind → Option Animation
  | .clap => some .clap
  | .dance => some .dancingTypeA
  | .sing => some .singNormal
  | _ => none

/-- What the stage shows behind the characters. -/
inductive Scenery where
  | stageFloor
  | forest
  | park
  | indoor
  | street
  | custom
  deriving DecidableEq, Repr

instance : Vocabulary Scenery where
  title := "BackgroundType"
  all := [.stageFloor, .forest, .park, .indoor, .street, .custom]
  word
    | .stageFloor => "stage_floor"
    | .forest => "forest"
    | .park => "park"
    | .indoor => "indoor"
    | .street => "street"
    | .custom => "custom"
  mem_all t := by cases t <;> decide
  nodup := by decide

/-- How the scenery of a beat follows that of the beat before. -/
inductive Transition where
  | cut
  | fade
  | slideLeft
  | slideRight
  deriving DecidableEq, Repr

instance : Vocabulary Transition where
  title := "TransitionType"
  all := [.cut, .fade, .slideLeft, .slideRight]
  word
    | .cut => "NONE"
    | .fade => "FADE"
    | .slideLeft => "SLIDE_LEFT"
    | .slideRight => "SLIDE_RIGHT"
  mem_all t := by cases t <;> decide
  nodup := by decide

/-- The color of the light. -/
inductive LightColor where
  | white
  | warm
  | cool
  | red
  | blue
  | purple
  deriving DecidableEq, Repr

instance : Vocabulary LightColor where
  title := "LightingColor"
  all := [.white, .warm, .cool, .red, .blue, .purple]
  word
    | .white => "WHITE"
    | .warm => "WARM"
    | .cool => "COOL"
    | .red => "RED"
    | .blue => "BLUE"
    | .purple => "PURPLE"
  mem_all t := by cases t <;> decide
  nodup := by decide

/-- A sound that is played once. -/
inductive SoundKind where
  | footstep
  | doorOpen
  | doorClose
  | applause
  | laughter
  | gasp
  | sigh
  deriving DecidableEq, Repr

instance : Vocabulary SoundKind where
  title := "SoundEffectType"
  all := [.footstep, .doorOpen, .doorClose, .applause, .laughter, .gasp, .sigh]
  word
    | .footstep => "FOOTSTEP"
    | .doorOpen => "DOOR_OPEN"
    | .doorClose => "DOOR_CLOSE"
    | .applause => "APPLAUSE"
    | .laughter => "LAUGHTER"
    | .gasp => "GASP"
    | .sigh => "SIGH"
  mem_all t := by cases t <;> decide
  nodup := by decide

end Promptbook
