import Promptbook.Scenario.Load
import Promptbook.Text.Split

/-!
# Paths and folders

Where the files that a command names are found, and whether a file can be written at a path.  A
path is resolved by its parts alone where a file is read, and step by step where one is written.
-/

namespace Promptbook.Command

/-- An absolute place in the file tree: a known place and the parts below it. -/
structure FilePlace where
  base : String
  parts : List String
  deriving DecidableEq, Repr

namespace FilePlace

/-- The top of the file tree. -/
def top : FilePlace := ⟨"", []⟩

/-- The place one step up; there is none above the base. -/
def parent (l : FilePlace) : FilePlace := { l with parts := l.parts.dropLast }

/-- The place one step down. -/
def child (l : FilePlace) (name : String) : FilePlace := { l with parts := l.parts ++ [name] }

/-- The absolute path of a place. -/
def path (l : FilePlace) : String :=
  if l.base = "" ∧ l.parts.isEmpty then "/"
  else l.parts.foldl (fun p part => p ++ "/" ++ part) l.base

/-- The last part of a path. -/
def name (l : FilePlace) : String := l.parts.getLast?.getD ""

/-- The place that one part of a path leads to. -/
def step (l : FilePlace) (part : String) : FilePlace :=
  if part = "" ∨ part = "." then l
  else if part = ".." then l.parent
  else l.child part

end FilePlace

/-- The file tree, as far as a command looks at it, with the current directory. -/
structure Folder where
  current : FilePlace
  entries : List (FilePlace × Entry)
  deriving Repr

/-- Why nothing can be found or written at a path. -/
inductive PathFault where
  | notFound
  | notDirectory
  | isDirectory
  | nameTooLong
  deriving DecidableEq, Repr

/-- A path at which nothing can be found or written. -/
structure Unreachable where
  path : String
  fault : PathFault
  deriving DecidableEq, Repr

/-- The wording of a path at which nothing can be found or written. -/
def Unreachable.message (u : Unreachable) : String :=
  match u.fault with
  | .notFound => notFoundMessage u.path
  | .notDirectory => notDirectoryMessage u.path
  | .isDirectory => isDirectoryMessage u.path
  | .nameTooLong => nameTooLongMessage u.path

/-- How many bytes a path may have. -/
def pathLimit : Nat := 4095

/-- Whether a path starts at the top of the file tree. -/
def isAbsolute (path : String) : Bool := path.toList.head? == some '/'

/-- The parts of a path that lead anywhere. -/
def essentialParts (path : String) : List String :=
  (Text.split '/' path).filter fun part => part ≠ "" ∧ part ≠ "."

/-- The separators that a path starts with, without superfluous ones: exactly two are kept. -/
def leadingSeparators (path : String) : String :=
  match (path.toList.takeWhile (· = '/')).length with
  | 0 => ""
  | 2 => "//"
  | _ => "/"

/-- A path without superfluous separators and parts. -/
def tidyPath (path : String) : String :=
  let tidy := leadingSeparators path ++ "/".intercalate (essentialParts path)
  if tidy = "" then "." else tidy

namespace Folder

/-- What stands at a place. -/
def entry? (f : Folder) (l : FilePlace) : Option Entry := f.entries.lookup l

/-- The place where a path starts. -/
def start (f : Folder) (path : String) : FilePlace :=
  if isAbsolute path then .top else f.current

/-- The place that a path names, by its parts alone. -/
def resolve (f : Folder) (path : String) : FilePlace :=
  (Text.split '/' path).foldl FilePlace.step (f.start path)

/-- The place that the parts of a path lead to, each through a directory. -/
def descend (f : Folder) : FilePlace → List String → Except PathFault FilePlace
  | l, [] => .ok l
  | l, part :: parts =>
    match f.entry? l with
    | none => .error .notFound
    | some (.file _) => .error .notDirectory
    | some .directory =>
      if nameLimit < part.utf8ByteSize then .error .nameTooLong
      else descend f (l.step part) parts

/-- What a path leads to, step by step. -/
def follow? (f : Folder) (path : String) : Option Entry :=
  match f.descend (f.start path) (Text.split '/' path) with
  | .ok l => f.entry? l
  | .error _ => none

/-- Whether the path of a place, or a part on the way to it, is too long to be looked for. -/
def isTooLong (f : Folder) (l : FilePlace) : Bool :=
  pathLimit < l.path.utf8ByteSize ||
    match f.descend ⟨l.base, []⟩ l.parts with
    | .error .nameTooLong => true
    | _ => false

/-- The place for a new file under a name in a directory. -/
def place (f : Folder) (directory : FilePlace) (name : String) : Except PathFault FilePlace :=
  match f.entry? directory with
  | none => .error .notFound
  | some (.file _) => .error .notDirectory
  | some .directory =>
    if nameLimit < name.utf8ByteSize then .error .nameTooLong
    else if name = ".." then .error .isDirectory
    else match f.entry? (directory.child name) with
      | some .directory => .error .isDirectory
      | _ => .ok (directory.child name)

/-- The place where a file is written that is given by a path. -/
def target (f : Folder) (path : String) : Except Unreachable FilePlace :=
  let parts := essentialParts path
  let found : Except PathFault FilePlace :=
    if pathLimit < (tidyPath path).utf8ByteSize then .error .nameTooLong
    else match parts.getLast? with
      | none => .error .isDirectory
      | some name => do f.place (← f.descend (f.start path) parts.dropLast) name
  found.mapError fun fault => ⟨tidyPath path, fault⟩

/-- The places that a path from a place may lead through. -/
def visited (current : FilePlace) (path : String) : List FilePlace :=
  let start := if isAbsolute path then .top else current
  let places := (Text.split '/' path).foldl
    (fun places part => (places.head?.getD start).step part :: places) [start]
  places.reverse

end Folder

end Promptbook.Command
