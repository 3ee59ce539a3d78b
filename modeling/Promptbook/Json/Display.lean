import Promptbook.Json.Value
import Promptbook.Number.Layout
import Promptbook.Text.Quoted

/-!
# JSON values in messages

How a message shows a value: constants and numbers by their message text, strings between quotes,
arrays in brackets and objects in braces.
-/

namespace Promptbook.Json

/-- The members that count: each name where it first stands, with its last value. -/
def effective (ms : List (Spelling × String)) : List (Spelling × String) :=
  (ms.map (·.1)).eraseDups.filterMap fun name =>
    (ms.reverse.lookup name).map fun shown => (name, shown)

mutual

/-- A value as part of a message. -/
def display : Json → String
  | null => "None"
  | bool b => if b then "True" else "False"
  | integer n => Text.decimal n
  | number x => Layout.message.render x
  | text s => Text.quoted s
  | array js => "[" ++ ", ".intercalate (displayItems js) ++ "]"
  | object ms =>
    "\x7b" ++ ", ".intercalate
      ((effective (displayMembers ms)).map fun m => Text.quoted m.1 ++ ": " ++ m.2) ++ "\x7d"

/-- The items of an array. -/
def displayItems : List Json → List String
  | [] => []
  | j :: js => display j :: displayItems js

/-- The members of an object. -/
def displayMembers : List (Spelling × Json) → List (Spelling × String)
  | [] => []
  | m :: ms => displayMember m :: displayMembers ms

/-- One member of an object. -/
def displayMember : Spelling × Json → Spelling × String
  | (name, j) => (name, display j)

end

/-- A value as the subject of a message: a text as it is, all else as part of a message. -/
def shown : Json → String
  | text s => s.shown
  | j => display j

end Promptbook.Json
