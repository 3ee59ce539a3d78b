import Promptbook.Command.Run

/-!
# The program

Looks at the files that the arguments name, runs the command line on them, and carries out what
its result says.
-/

namespace Promptbook

open Command

/-- What stands at a place. -/
def lookUp (l : FilePlace) : IO (Option Entry) := do
  let path := (← IO.currentDir) / l.path
  if ← path.isDir then return some .directory
  if ← path.pathExists then return some (.file (← IO.FS.readBinFile path).toList)
  return none

/-- The current directory as a place. -/
def currentLocation : IO FilePlace := do
  let path := (← IO.currentDir).toString
  return { FilePlace.top with parts := essentialParts path }

/-- The part of the file tree that some paths lead through. -/
def lookAround (paths : List String) : IO Folder := do
  let current ← currentLocation
  let places := (paths.flatMap (Folder.visited current)).eraseDups
  let entries ← places.filterMapM fun l => do return (← lookUp l).map fun e => (l, e)
  return ⟨current, entries⟩

/-- Shows a text, ended by a line break. -/
def display (stream : IO.FS.Stream) (text : String) : IO Unit :=
  if text.isEmpty then pure ()
  else stream.putStr (if text.endsWith "\n" then text else text ++ "\n")

/-- Carries out what a result says; wrong arguments are answered by how the commands are used. -/
def carryOut (r : Result) : IO UInt32 := do
  match r.written with
  | some (l, text) => IO.FS.writeFile l.path text
  | none => pure ()
  display (← IO.getStdout) r.stdout
  display (← IO.getStderr) (if r.exit = 2 then usage else r.stderr)
  match r.crash with
  | some c => display (← IO.getStderr) c.message
  | none => pure ()
  return UInt32.ofNat r.exit

end Promptbook

/-- Runs the command line. -/
def main (arguments : List String) : IO UInt32 := do
  let args := arguments.map Promptbook.Spelling.ofString
  let paths := ((Promptbook.Command.Invocation.read? args).map (·.paths)).getD []
  let folder ← Promptbook.lookAround paths
  let width ← IO.getEnv Promptbook.StageSize.widthSetting
  let height ← IO.getEnv Promptbook.StageSize.heightSetting
  Promptbook.carryOut (Promptbook.Command.run ⟨folder, ⟨width, height⟩⟩ args)
