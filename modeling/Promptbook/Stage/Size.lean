import Promptbook.Number.Numeral
import Promptbook.Text.Quoted

/-!
# The size of the stage

Width and height of the stage in stage units.  Two environment settings override the usual size;
a setting that is no number, or a number that is not above zero, is refused.
-/

namespace Promptbook

/-- The environment settings that the size of the stage is read from. -/
structure Environment where
  width : Option String := none
  height : Option String := none
  deriving DecidableEq, Repr

/-- A setting whose value is refused. -/
structure BadSetting where
  name : String
  value : String
  deriving DecidableEq, Repr

/-- The wording of a refused setting. -/
def BadSetting.message (e : BadSetting) : String :=
  "Invalid configuration value for " ++ e.name ++ ": '" ++ e.value ++ "'.\n" ++
    "  Check: " ++ e.name ++ " must be a positive number of stage units."

/-- Width and height of a stage in stage units. -/
structure StageSize where
  width : Float
  height : Float
  deriving DecidableEq, Repr

namespace StageSize

/-- The name of the setting for the width. -/
def widthSetting : String := "BEATSTAGE_STAGE_WIDTH"

/-- The name of the setting for the height. -/
def heightSetting : String := "BEATSTAGE_STAGE_HEIGHT"

/-- The size of a stage without settings. -/
def usual : StageSize := ⟨360.0, 300.0⟩

/-- A setting as a number, or the usual value where it is absent. -/
def readSetting (name : String) (usual : Float) : Option String → Except BadSetting Float
  | none => .ok usual
  | some text =>
    match Numeral.ofSetting? text with
    | none => .error ⟨name, text⟩
    | some x => if x ≤ 0.0 then .error ⟨name, text⟩ else .ok x

/-- The size of the stage in an environment; the width is read first. -/
def ofEnvironment (env : Environment) : Except BadSetting StageSize := do
  let width ← readSetting widthSetting usual.width env.width
  let height ← readSetting heightSetting usual.height env.height
  return ⟨width, height⟩

@[simp] theorem ofEnvironment_empty : ofEnvironment {} = .ok usual := rfl

end StageSize

end Promptbook
