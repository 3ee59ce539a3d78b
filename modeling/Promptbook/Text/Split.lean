/-!
# Splitting text

A text is cut at each occurrence of a character, and the pieces between are kept even when empty;
or it is cut into words at characters of a class, none of which is empty.
-/

namespace Promptbook.Text

/-- The pieces of a list between the separators. -/
def cut {α : Type} [DecidableEq α] (sep : α) : List α → List (List α)
  | [] => [[]]
  | x :: xs =>
    if x = sep then [] :: cut sep xs
    else match cut sep xs with
      | [] => [[x]]
      | piece :: pieces => (x :: piece) :: pieces

/-- The pieces of a text between the separators. -/
def split (sep : Char) (s : String) : List String := (cut sep s.toList).map String.ofList

/-- The longest stretches without a character of a class, the first one behind some characters. -/
def wordsBehind (p : Char → Bool) : List Char → List Char → List (List Char)
  | before, [] => if before.isEmpty then [] else [before.reverse]
  | before, c :: cs =>
    if p c then
      if before.isEmpty then wordsBehind p [] cs else before.reverse :: wordsBehind p [] cs
    else wordsBehind p (c :: before) cs

/-- The longest stretches without a character of a class. -/
def words (p : Char → Bool) (cs : List Char) : List (List Char) := wordsBehind p [] cs

variable {α : Type} [DecidableEq α]

end Promptbook.Text
