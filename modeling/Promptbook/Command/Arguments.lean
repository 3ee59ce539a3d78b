import Promptbook.Number.Numeral
import Promptbook.Text.Spelling

/-!
# The command line

An invocation names a command, its options and one further argument.  An option stands anywhere
behind the command, takes its value from the same argument or the next one, and is overridden by a
later one of its name; two dashes end the options.
-/

namespace Promptbook.Command

/-- The options of all commands. -/
inductive OptionName where
  | output
  | workers
  | characters
  | strict
  | id
  | character
  | help
  deriving DecidableEq, Repr

/-- How an option is spelled, and whether it takes a value. -/
structure OptionSpec where
  name : OptionName
  long : String
  short : Option Char
  takesValue : Bool

/-- What one or two arguments stand for. -/
inductive Item where
  | positional (value : Spelling)
  | option (name : OptionName) (value : Option Spelling)
  deriving DecidableEq, Repr

/-- What one argument stands for, its value possibly still to come. -/
inductive Reading where
  | complete (item : Item)
  | awaiting (name : OptionName)
  | unknown

/-- The option for which two dashes and a name stand, and the value behind an equality sign. -/
def readLong (specs : List OptionSpec) (arg : Spelling) :
    Option (OptionSpec × Option Spelling) :=
  let (long, rest) := arg.points.span (· ≠ .char '=')
  (specs.find? fun s => Spelling.ofString s.long == ⟨long⟩).map fun s =>
    (s, rest.tail?.map Spelling.mk)

/-- What an argument that starts with one dash stands for; the value may follow the letter. -/
def readShort (specs : List OptionSpec) (letter : CodePoint) (rest : List CodePoint) : Reading :=
  match specs.find? fun s => s.short.map CodePoint.char == some letter with
  | none => .unknown
  | some s =>
    if rest.isEmpty then .awaiting s.name else .complete (.option s.name (some ⟨rest⟩))

/-- What an argument stands for. -/
def readArgument (specs : List OptionSpec) (arg : Spelling) : Reading :=
  match arg.points with
  | .char '-' :: p :: ps =>
    match readLong specs arg with
    | some (s, none) => if s.takesValue then .awaiting s.name else .complete (.option s.name none)
    | some (s, some value) =>
      if s.takesValue then .complete (.option s.name (some value)) else .unknown
    | none => if p = .char '-' then .unknown else readShort specs p ps
  | _ => .complete (.positional arg)

/-- The items of the arguments behind a command, if they are in order.  The first argument may be
the value that an option awaits. -/
def scan? (specs : List OptionSpec) : Option OptionName → List Spelling → Option (List Item)
  | none, [] => some []
  | some _, [] => none
  | some name, arg :: args => do
    return .option name (some arg) :: (← scan? specs none args)
  | none, arg :: args =>
    if arg = "--" then some (args.map .positional)
    else match readArgument specs arg with
      | .complete item => do return item :: (← scan? specs none args)
      | .awaiting name => scan? specs (some name) args
      | .unknown => none

/-- What the user asks for. -/
inductive Invocation where
  | help
  | compile (scenario : String) (output : Option String)
  | reconcile (layered characters : String) (output : Option String) (strict : Bool)
  | template (name id : Spelling) (cast : List Spelling) (output : Option String)
  deriving DecidableEq, Repr

/-- The values of an option in order. -/
def values (name : OptionName) (items : List Item) : List Spelling :=
  items.filterMap fun item => match item with
    | .option n value => if n = name then value else none
    | .positional _ => none

/-- The value of an option that counts. -/
def value? (name : OptionName) (items : List Item) : Option Spelling := (values name items).getLast?

/-- Whether a flag is given. -/
def given (name : OptionName) (items : List Item) : Bool :=
  items.any fun item => item == .option name none

/-- The single argument that is no option. -/
def argument? (items : List Item) : Option Spelling :=
  match items.filterMap fun item => match item with
    | .positional value => some value
    | .option .. => none with
  | [value] => some value
  | _ => none

/-- The option for the file to write. -/
def outputOption : OptionSpec := ⟨.output, "--output", some 'o', true⟩

/-- The option for the number of workers. -/
def workersOption : OptionSpec := ⟨.workers, "--workers", some 'w', true⟩

/-- The option for the file of characters. -/
def charactersOption : OptionSpec := ⟨.characters, "--characters", some 'c', true⟩

/-- The flag that refuses unknown characters. -/
def strictOption : OptionSpec := ⟨.strict, "--strict", none, false⟩

/-- The option for the id of a beat. -/
def idOption : OptionSpec := ⟨.id, "--id", none, true⟩

/-- The option for one character of a cast. -/
def characterOption : OptionSpec := ⟨.character, "--character", some 'c', true⟩

/-- The flag that asks how the commands are used. -/
def helpOption : OptionSpec := ⟨.help, "--help", none, false⟩

/-- Whether a number of workers is a whole number above zero. -/
def workersValid (items : List Item) : Bool :=
  (value? .workers items).all fun value =>
    ((value.text?.map Numeral.intOfText).bind Except.toOption).any fun n => 1 ≤ n

/-- The path that an argument is: a text without the character of code zero. -/
def path? (value : Spelling) : Option String :=
  value.text?.filter fun text => '\x00' ∉ text.toList

/-- The path of the file to write, if one is given; a value that is no path is refused. -/
def output? (items : List Item) : Option (Option String) := (value? .output items).mapM path?

/-- The invocation of a command with its arguments. -/
def readCommand? (command : Spelling) (args : List Spelling) : Option Invocation :=
  match command.text? with
  | some "compile" => do
    let items ← scan? [outputOption, workersOption, helpOption] none args
    if given .help items then return .help
    let scenario ← (argument? items).bind path?
    if workersValid items then return .compile scenario (← output? items) else none
  | some "reconcile" => do
    let items ← scan? [charactersOption, outputOption, strictOption, helpOption] none args
    if given .help items then return .help
    let layered ← (argument? items).bind path?
    let characters ← (value? .characters items).bind path?
    return .reconcile layered characters (← output? items) (given .strict items)
  | some "template" => do
    let items ← scan? [idOption, characterOption, outputOption, helpOption] none args
    if given .help items then return .help
    let name ← argument? items
    let id ← value? .id items
    return .template name id (values .character items) (← output? items)
  | _ => none

/-- The paths that an invocation names. -/
def Invocation.paths : Invocation → List String
  | help => []
  | compile scenario output => scenario :: output.toList
  | reconcile layered characters output _ => layered :: characters :: output.toList
  | template _ _ _ output => output.toList

/-- What the arguments ask for, if they are in order. -/
def Invocation.read? : List Spelling → Option Invocation
  | [] => none
  | first :: rest =>
    if first = "--" then match rest with
      | [] => none
      | command :: args => readCommand? command args
    else if first = "--help" then some .help
    else readCommand? first rest

end Promptbook.Command
