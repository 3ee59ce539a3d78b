import Promptbook.Json.Printer

/-!
# Values that can be written

A string that is no text, because it holds halves of surrogate pairs, cannot be handed on in a
document, and neither can a value that holds such a string.  The first of these strings is the one
that is reported.
-/

namespace Promptbook.Json

/-- What keeps a string from being written: where halves of surrogate pairs stand first, how many
stand there in a row, and the first of them. -/
structure Unwritable where
  start : Nat
  length : Nat
  unit : Nat
  deriving DecidableEq, Repr

namespace Unwritable

/-- The wording of what keeps a string from being written; a single half is named. -/
def message (u : Unwritable) : String :=
  let place :=
    if u.length ≤ 1 then
      "character '\\u" ++ String.ofList (Text.hex 4 u.unit) ++ "' in position " ++
        Text.decimal u.start
    else
      "characters in position " ++ Text.decimal u.start ++ "-" ++
        Text.decimal (u.start + u.length - 1)
  "Error serializing to JSON: UnicodeEncodeError: 'utf-8' codec can't encode " ++ place ++
    ": surrogates not allowed"

/-- The unit of a code point that is half of a surrogate pair. -/
def unit? : CodePoint → Option Nat
  | .char _ => none
  | .half unit => some unit

/-- What keeps a string from being written, if anything does. -/
def inText? (s : Spelling) : Option Unwritable :=
  match s.points.span fun p => !p.isHalf with
  | (before, p :: ps) =>
    (unit? p).map fun unit => ⟨before.length, ((p :: ps).takeWhile CodePoint.isHalf).length, unit⟩
  | (_, []) => none

end Unwritable

mutual

/-- What keeps a value from being written, if anything does. -/
def unwritable? : Json → Option Unwritable
  | text s => Unwritable.inText? s
  | array js => itemsUnwritable? js
  | object ms => membersUnwritable? ms
  | _ => none

/-- What keeps some items from being written. -/
def itemsUnwritable? : List Json → Option Unwritable
  | [] => none
  | j :: js => (unwritable? j).or (itemsUnwritable? js)

/-- What keeps some members from being written. -/
def membersUnwritable? : List (Spelling × Json) → Option Unwritable
  | [] => none
  | m :: ms => (memberUnwritable? m).or (membersUnwritable? ms)

/-- What keeps a member from being written: its name, or else its value. -/
def memberUnwritable? : Spelling × Json → Option Unwritable
  | (name, j) => (Unwritable.inText? name).or (unwritable? j)

end

/-- The text of a value that can be written. -/
def written (indent : Option Nat) (j : Json) : Except Unwritable String :=
  match unwritable? j with
  | none => .ok (j.render indent)
  | some u => .error u

theorem written_eq_ok_iff (indent : Option Nat) (j : Json) (s : String) :
    j.written indent = .ok s ↔ unwritable? j = none ∧ j.render indent = s := by
  cases h : unwritable? j <;> simp [written, h]

end Promptbook.Json
