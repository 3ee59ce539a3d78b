import Promptbook.Beat.Template
import Promptbook.Command.Arguments
import Promptbook.Command.Folder
import Promptbook.Command.Markup
import Promptbook.Scenario.Convert
import Promptbook.Scene.Record

/-!
# The commands

Three commands work on documents: `compile` makes a script of a scenario, `reconcile` a scenario
of layered beats, and `template` a scenario of a ready-made beat.  A command is a function of its
arguments, the folder and the environment; what it writes is part of its result.
-/

namespace Promptbook.Command

open Record

/-- What ends a command without a message of its own. -/
inductive Crash where
  | time (e : Double.NonFinite)
  /-- The length of a script is too large for a double. -/
  | length
  | unreachable (u : Unreachable)
  | tooDeep (m : Json.Malformed)
  | unwritable (u : Json.Unwritable)
  | markup (f : MarkupFault)
  deriving DecidableEq, Repr

/-- The wording of what ends a command. -/
def Crash.message : Crash → String
  | time e => e.message
  | length => "integer division result too large for a float"
  | unreachable u => u.message
  | tooDeep m => m.message
  | unwritable u => u.message
  | markup f => f.message

/-- What is shown before a command ends that way. -/
def Crash.told : Crash → String
  | .markup f => "\n".intercalate (f.cautions.map Expression.Caution.message)
  | _ => ""

/-- A message under a title. -/
structure Panel where
  title : String
  body : String
  deriving DecidableEq, Repr

/-- Why a command fails. -/
inductive Stop where
  /-- The arguments are not in order. -/
  | usage
  | panel (p : Panel)
  | crash (c : Crash)
  deriving DecidableEq, Repr

/-- What a command leaves behind: its exit code, what it shows, and the file that it writes. -/
structure Result where
  exit : Nat
  stdout : String := ""
  stderr : String := ""
  written : Option (FilePlace × String) := none
  crash : Option Crash := none
  deriving DecidableEq, Repr

/-- The lines of a text without blanks at their ends. -/
def trimLines (text : String) : String :=
  "\n".intercalate ((Text.split '\n' text).map fun line =>
    String.ofList (line.toList.reverse.dropWhile (· = ' ')).reverse)

/-- A panel as it is shown. -/
def Panel.text (p : Panel) : Except MarkupFault String :=
  (shownMessage p.body).map fun body => trimLines ("# " ++ p.title ++ "\n" ++ body)

/-- The result of a command that ends without a message of its own. -/
def Crash.result (c : Crash) : Result := { exit := 1, stderr := c.told, crash := some c }

/-- The result of a command that fails. -/
def Stop.result : Stop → Result
  | usage => { exit := 2 }
  | crash c => c.result
  | panel p =>
    match p.text with
    | .ok text => { exit := 1, stderr := text }
    | .error f => (Crash.markup f).result

/-- The panel for a wrong argument. -/
def inputError (message : String) : Stop := .panel ⟨"Input Error", message⟩

/-- How a failure ends a command. -/
def Stop.ofFailure : Failure → Stop
  | .time e => .crash (.time e)
  | .tooDeep m => .crash (.tooDeep m)
  | failure => .panel ⟨"Conversion Error", failure.message⟩

/-- A panel that reports a success; what was written stays written when it cannot be shown. -/
def report (l : FilePlace) (payload : String) (shown : Except MarkupFault String) : Result :=
  match shown with
  | .ok text => { exit := 0, stdout := text, written := some (l, payload) }
  | .error f => { (Crash.markup f).result with written := some (l, payload) }

/-- What a command looks at besides its arguments. -/
structure Surroundings where
  folder : Folder
  environment : Environment
  deriving Repr

namespace Surroundings

/-- Refuses a directory where a file is wanted. -/
def checkOutput (w : Surroundings) (output : Option String) : Except Stop Unit :=
  if output.any fun path => w.folder.follow? path = some .directory then .error .usage else .ok ()

/-- The place of a file to be read; a directory is refused. -/
def input (w : Surroundings) (path : String) : Except Stop FilePlace :=
  let l := w.folder.resolve path
  if w.folder.entry? l = some .directory then .error .usage else .ok l

/-- Refuses a place where there is no file. -/
def checkExists (w : Surroundings) (l : FilePlace) : Except Stop Unit :=
  if w.folder.isTooLong l then .error (.crash (.unreachable ⟨l.path, .nameTooLong⟩))
  else if (w.folder.entry? l).isSome then .ok ()
  else .error (inputError ("File not found: [bold]" ++ l.path ++ "[/bold]\n" ++
    "Check that the path is correct and the file is accessible."))

/-- What a reader finds in a file. -/
def load {τ : Type} (w : Surroundings) (read : String → Checked τ) (l : FilePlace) :
    Except Stop τ :=
  (Promptbook.load read l.path l.name (w.folder.entry? l)).mapError .ofFailure

/-- Shows a payload, or writes it to a file and reports that. -/
def deliver (w : Surroundings) (payload : String) (output : Option String)
    (success : String → FilePlace → Result) : Except Stop Result :=
  match output with
  | none => .ok { exit := 0, stdout := payload ++ "\n" }
  | some path =>
    match w.folder.target path with
    | .ok l => .ok (success (tidyPath path) l)
    | .error u => .error (.crash (.unreachable u))

end Surroundings

/-- The text of a document, where it can be written. -/
def writtenText (text : Except Json.Unwritable String) : Except Stop String :=
  text.mapError fun u => .crash (.unwritable u)

/-- The body of the report on a script. -/
def scriptReport (name : String) (origin : Origin) (s : Script String) (seconds : Float)
    (output : String) : String :=
  "[bold green]Compiled[/bold green]\n\n" ++
    "  Scenario: [dim]" ++ name ++ "[/dim] (" ++ Vocabulary.word origin ++ ")\n" ++
    "  Scenes:   " ++ Text.decimal s.scenes.length ++ "\n" ++
    "  Duration: " ++ Layout.tenths seconds ++ "s\n" ++
    "  Output:   [dim]" ++ output ++ "[/dim]"

/-- The result of writing a script. -/
def scriptResult (name : String) (origin : Origin) (s : Script String) (payload output : String)
    (l : FilePlace) : Result :=
  let seconds := Double.ofFraction s.totalMillis 1000
  if seconds.isFinite then
    report l payload (Panel.text ⟨"Script Ready", scriptReport name origin s seconds output⟩)
  else { exit := 1, written := some (l, payload), crash := some .length }

/-- Makes a script of a scenario. -/
def compile (w : Surroundings) (scenario : String) (output : Option String) :
    Except Stop Result := do
  let l ← w.input scenario
  w.checkOutput output
  w.checkExists l
  let s ← w.load Scenario.decode l
  let script ← (Script.compile .names none w.environment false s.beats).mapError .ofFailure
  let document := Script.shape.write (script.map fun (name : String) => .text name)
  let payload ← writtenText (document.written (some 2))
  w.deliver payload output (scriptResult l.name s.origin script payload)

/-- The body of the report on a scenario. -/
def scenarioReport (s : Scenario) (output : String) : String :=
  "[bold green]Reconciled[/bold green]\n\n" ++
    "  Beats:      " ++ Text.decimal s.beats.length ++ "\n" ++
    "  Characters: " ++ Text.decimal s.characters.length ++ "\n" ++
    "  Output:     [dim]" ++ output ++ "[/dim]"

/-- Makes a scenario of layered beats. -/
def reconcile (w : Surroundings) (layered characters : String) (output : Option String)
    (strict : Bool) : Except Stop Result := do
  let l ← w.input layered
  let c ← w.input characters
  w.checkOutput output
  w.checkExists l
  w.checkExists c
  let directory ← w.load readCharacters c
  let layeredBeats ← w.load readLayeredBeats l
  let beats ← (LayeredBeat.flattenAll strict layeredBeats directory).mapError fun u =>
    Stop.ofFailure (.unknownCharacters u)
  let s : Scenario := {
    description := "Reconciled from " ++ l.name
    beats := beats
    characters := directory
    origin := .layeredBeat }
  let payload ← writtenText (s.encode (some 2))
  w.deliver payload output fun path place =>
    report place payload (Panel.text ⟨"Scenario Ready", scenarioReport s path⟩)

/-- The gender that a word names in any case of its letters. -/
def gender? (word : String) : Option Gender :=
  (Vocabulary.all : List Gender).find? fun g =>
    Text.asciiLower (Vocabulary.word g).toList == Text.asciiLower word.toList

/-- The character that an argument describes by id, name and gender. -/
def readCharacter (value : Spelling) : Except Stop Character :=
  match value.split ':' with
  | [id, name, gender] =>
    if id = "" ∨ name = "" then .error bad
    else match gender.text?.bind gender? with
      | some g => .ok ⟨id, name, g⟩
      | none => .error (inputError ("Unknown gender: [bold]" ++ gender.shown ++ "[/bold]\n" ++
          "Valid genders: " ++
          ", ".intercalate (Vocabulary.words (inferInstance : Vocabulary Gender))))
  | _ => .error bad
where
  /-- The refusal of an argument with other parts. -/
  bad : Stop := inputError ("Bad character: [bold]" ++ value.shown ++ "[/bold]\n" ++
    "Expected ID:NAME:GENDER, e.g. a:Alice:FEMALE")

/-- The names of the ready-made beats in alphabetic order. -/
def templateNames : List String :=
  (Vocabulary.words (inferInstance : Vocabulary Situation)).mergeSort fun a b => a ≤ b

/-- Refuses a name that no ready-made beat has. -/
def checkTemplate (name : Spelling) : Except Stop Unit :=
  if name.text?.any (· ∈ templateNames) then .ok ()
  else .error (inputError ("Unknown template: [bold]" ++ name.shown ++ "[/bold]\n" ++
    "Valid templates: " ++ ", ".intercalate templateNames))

/-- Makes a scenario of a ready-made beat. -/
def template (w : Surroundings) (name id : Spelling) (cast : List Spelling)
    (output : Option String) : Except Stop Result := do
  w.checkOutput output
  checkTemplate name
  let cast ← cast.mapM readCharacter
  let t ← (Template.named name cast).mapError fun f => inputError f.message
  let beat := t.beat id
  let s : Scenario := {
    description := beat.description
    beats := [beat]
    characters := cast
    origin := .beat }
  let payload ← writtenText (s.encode (some 2))
  w.deliver payload output fun path place =>
    report place payload ((shownMessage ("[green]Template written:[/] [dim]" ++ path ++
      "[/dim]")).map (· ++ "\n"))

/-- How the commands are used. -/
def usage : String :=
  "Usage: compile SCENARIO [-o FILE] [-w COUNT]\n" ++
    "       reconcile LAYERED -c FILE [-o FILE] [--strict]\n" ++
    "       template NAME --id ID [-c ID:NAME:GENDER]... [-o FILE]\n"

/-- Carries out an invocation. -/
def Invocation.perform (w : Surroundings) : Invocation → Except Stop Result
  | help => .ok { exit := 0, stdout := usage }
  | compile scenario output => Command.compile w scenario output
  | reconcile layered characters output strict =>
    Command.reconcile w layered characters output strict
  | template name id cast output => Command.template w name id cast output

/-- Runs a command line. -/
def run (w : Surroundings) (arguments : List Spelling) : Result :=
  match Invocation.read? arguments with
  | none => Stop.usage.result
  | some i =>
    match i.perform w with
    | .ok r => r
    | .error s => s.result

end Promptbook.Command
