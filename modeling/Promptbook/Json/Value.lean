import Promptbook.Text.Spelling

/-!
# JSON values

Values as a text gives them: whole numbers apart from other numbers, strings as they are spelled,
the members of an object in order, repetitions included.
-/

namespace Promptbook

/-- A JSON value. -/
inductive Json where
  | null
  | bool (b : Bool)
  | integer (n : Int)
  | number (x : Float)
  | text (s : Spelling)
  | array (items : List Json)
  | object (members : List (Spelling × Json))
  deriving Repr

namespace Json

mutual

/-- How deep arrays and objects that hold something nest. -/
def depth : Json → Nat
  | array [] | object [] => 0
  | array (j :: js) => max (depth j) (depthOfItems js) + 1
  | object (m :: ms) => max (depthOfMember m) (depthOfMembers ms) + 1
  | _ => 0

/-- The depth of the deepest item. -/
def depthOfItems : List Json → Nat
  | [] => 0
  | j :: js => max (depth j) (depthOfItems js)

/-- The depth of the deepest member. -/
def depthOfMembers : List (Spelling × Json) → Nat
  | [] => 0
  | m :: ms => max (depthOfMember m) (depthOfMembers ms)

/-- The depth of the value of a member. -/
def depthOfMember : Spelling × Json → Nat
  | (_, j) => depth j

end

mutual

/-- How many levels a value has: one, and those of the deepest value that it holds. -/
def levels : Json → Nat
  | array js => levelsOfItems js + 1
  | object ms => levelsOfMembers ms + 1
  | _ => 1

/-- The levels of the deepest item. -/
def levelsOfItems : List Json → Nat
  | [] => 0
  | j :: js => max (levels j) (levelsOfItems js)

/-- The levels of the deepest member. -/
def levelsOfMembers : List (Spelling × Json) → Nat
  | [] => 0
  | m :: ms => max (levelsOfMember m) (levelsOfMembers ms)

/-- The levels of the value of a member. -/
def levelsOfMember : Spelling × Json → Nat
  | (_, j) => levels j

end

mutual

/-- Whether every string is a text. -/
def isWhole : Json → Bool
  | text s => s.isWhole
  | array js => itemsWhole js
  | object ms => membersWhole ms
  | _ => true

/-- Whether every string in some items is a text. -/
def itemsWhole : List Json → Bool
  | [] => true
  | j :: js => isWhole j && itemsWhole js

/-- Whether every string in some members is a text. -/
def membersWhole : List (Spelling × Json) → Bool
  | [] => true
  | m :: ms => memberWhole m && membersWhole ms

/-- Whether the name of a member and every string in its value are texts. -/
def memberWhole : Spelling × Json → Bool
  | (name, j) => name.isWhole && isWhole j

end

mutual

/-- A value with null for each number that is not finite. -/
def finite : Json → Json
  | number x => if x.isFinite then number x else null
  | array js => array (finiteItems js)
  | object ms => object (finiteMembers ms)
  | j => j

/-- Some items with null for each number that is not finite. -/
def finiteItems : List Json → List Json
  | [] => []
  | j :: js => finite j :: finiteItems js

/-- Some members with null for each number that is not finite. -/
def finiteMembers : List (Spelling × Json) → List (Spelling × Json)
  | [] => []
  | m :: ms => finiteMember m :: finiteMembers ms

/-- A member with null for each number that is not finite. -/
def finiteMember : Spelling × Json → Spelling × Json
  | (name, j) => (name, finite j)

end

/-- The value of the last member with a name. -/
def lookup? (name : Spelling) (members : List (Spelling × Json)) : Option Json :=
  members.foldl (fun found m => if m.1 = name then some m.2 else found) none

@[simp] theorem lookup?_nil (name : Spelling) : lookup? name [] = none := rfl

theorem lookup?_append_singleton (name : Spelling) (ms : List (Spelling × Json))
    (m : Spelling × Json) :
    lookup? name (ms ++ [m]) = if m.1 = name then some m.2 else lookup? name ms := by
  simp [lookup?, List.foldl_append]

end Json

end Promptbook
