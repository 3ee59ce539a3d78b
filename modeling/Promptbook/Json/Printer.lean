import Promptbook.Json.Value
import Promptbook.Number.Layout

/-!
# Writing JSON

A value is written on one line, or with each item and each member on a line of its own and
indented by a fixed number of spaces for each level.  A number that is not finite has no written
form and is written as null.
-/

namespace Promptbook.Json

/-- How one character is written inside a string. -/
def escapedChar (c : Char) : List Char :=
  if c = '"' then ['\\', '"']
  else if c = '\\' then ['\\', '\\']
  else if c = '\x08' then ['\\', 'b']
  else if c = '\x0c' then ['\\', 'f']
  else if c = '\n' then ['\\', 'n']
  else if c = '\r' then ['\\', 'r']
  else if c = '\t' then ['\\', 't']
  else if c.toNat < 0x20 then '\\' :: 'u' :: Text.hex 4 c.toNat
  else [c]

/-- How one code point is written inside a string; half of a surrogate pair is always escaped. -/
def escapedPoint : CodePoint → List Char
  | .char c => escapedChar c
  | .half unit => (CodePoint.half unit).shown

/-- A spelling as a JSON string. -/
def stringLiteral (s : Spelling) : List Char := '"' :: s.points.flatMap escapedPoint ++ ['"']

/-- The break before an item at a level of nesting. -/
def lineBreak (indent : Option Nat) (level : Nat) : List Char :=
  indent.elim [] fun n => '\n' :: List.replicate (n * level) ' '

/-- The mark between a name and its value. -/
def nameMark (indent : Option Nat) : List Char :=
  if indent.isSome then [':', ' '] else [':']

mutual

/-- A value at a level of nesting. -/
def print (indent : Option Nat) (level : Nat) : Json → List Char
  | null => "null".toList
  | bool b => (if b then "true" else "false").toList
  | integer n => (Text.decimal n).toList
  | number x => if x.isFinite then (Layout.document.render x).toList else "null".toList
  | text s => stringLiteral s
  | array [] => ['[', ']']
  | array (j :: js) =>
    '[' :: lineBreak indent (level + 1) ++ print indent (level + 1) j ++
      printItems indent (level + 1) js ++ lineBreak indent level ++ [']']
  | object [] => ['\x7b', '\x7d']
  | object (m :: ms) =>
    '\x7b' :: lineBreak indent (level + 1) ++ printMember indent (level + 1) m ++
      printMembers indent (level + 1) ms ++ lineBreak indent level ++ ['\x7d']

/-- The items after the first. -/
def printItems (indent : Option Nat) (level : Nat) : List Json → List Char
  | [] => []
  | j :: js =>
    ',' :: lineBreak indent level ++ print indent level j ++ printItems indent level js

/-- The members after the first. -/
def printMembers (indent : Option Nat) (level : Nat) : List (Spelling × Json) → List Char
  | [] => []
  | m :: ms =>
    ',' :: lineBreak indent level ++ printMember indent level m ++ printMembers indent level ms

/-- One member. -/
def printMember (indent : Option Nat) (level : Nat) : Spelling × Json → List Char
  | (name, j) => stringLiteral name ++ nameMark indent ++ print indent level j

end

/-- The text of a value, indented when a number of spaces is given. -/
def render (indent : Option Nat) (j : Json) : String :=
  String.ofList (print indent 0 j)

end Promptbook.Json
