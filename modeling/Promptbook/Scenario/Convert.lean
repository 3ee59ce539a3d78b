import Promptbook.Scenario.Load
import Promptbook.Scene.OfBeat

/-!
# Scripts from scenarios
-/

namespace Promptbook

variable {η : Type}

/-- The script of some beats on the given stage, or on the one that the environment asks for. -/
def Script.compile (h : Handles η) (size : Option StageSize) (env : Environment) (debug : Bool)
    (bs : List (Beat Float)) : Except Failure (Script η) :=
  match size.elim (StageSize.ofEnvironment env) .ok with
  | .error s => .error (.badSetting s)
  | .ok size => (Script.ofBeats h size debug bs).mapError .time

/-- The script of the scenario in a text. -/
def Scenario.convert (h : Handles η) (env : Environment) (text : String) :
    Except Failure (Script η) := do
  let s ← Scenario.ofText inlineSource text
  Script.compile h none env false s.beats

/-- What an attempt at a conversion ends with. -/
inductive Outcome (η : Type) where
  | ready (script : Script η)
  | failed (reason : String)

/-- The script of the scenario in a text, or the reason why the text holds none. -/
def Scenario.tryConvert (h : Handles η) (env : Environment) (text : String) :
    Except Failure (Outcome η) :=
  match convert h env text with
  | .ok script => .ok (.ready script)
  | .error (.unreadable u) => .ok (.failed u.fault.message)
  | .error failure => .error failure

end Promptbook
