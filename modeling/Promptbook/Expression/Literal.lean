import Promptbook.Number.Double
import Promptbook.Expression.Reader

/-!
# Literals

A literal is an expression of constants, of tuples, sets and tables of literals, of numbers under a
sign, and of the sum or difference of a number and an imaginary one; an empty set is written as a
call.  What is put into a set or is a key of a table must not be a set or a table, nor a tuple that
holds one.
-/

namespace Promptbook.Expression

/-- Why a text is no literal. -/
inductive LiteralFault where
  /-- The text is no expression, in words. -/
  | noExpression (wording : String)
  /-- The text is an expression of another kind: the line where it is, unless it has none. -/
  | noLiteral (line : Option Nat)
  /-- A key or a part of a set is of a type that cannot be. -/
  | unhashable (type : String)
  | tooLarge
  | zeroInText
  | tooDeep
  deriving DecidableEq, Repr

/-- The wording of a text that is no literal. -/
def LiteralFault.message : LiteralFault → String
  | noExpression wording => wording
  | noLiteral line =>
    "malformed node or string" ++ match line with
      | some line => " on line " ++ Text.decimal line
      | none => ": None"
  | unhashable type => "unhashable type: '" ++ type ++ "'"
  | tooLarge => "int too large to convert to float"
  | zeroInText => "source code string cannot contain null bytes"
  | tooDeep => ""

/-- What matters of a value: the type of the first thing in it that cannot be a key. -/
abbrev Mutable := Option String

namespace Tree

/-- The number that a constant is. -/
def figure : Tree → Except LiteralFault Figure
  | node (.constant (.figure f)) _ _ => .ok f
  | node _ line _ => .error (.noLiteral line)

/-- The number that a constant is, with a sign or without. -/
def signedFigure : Tree → Except LiteralFault Figure
  | node .signed _ [t] => t.figure
  | t => t.figure

/-- Checks a sum or difference: only a number and an imaginary one make a literal. -/
def checkComplex (line : Nat) (left right : Tree) : Except LiteralFault Unit := do
  let a ← left.signedFigure
  let b ← right.figure
  match a, b with
  | .whole n, .imaginary => if (Double.ofInt n).isFinite then return () else throw .tooLarge
  | .fraction, .imaginary => return ()
  | _, _ => throw (.noLiteral line)

/-- Refuses a value as a key. -/
def checkKey : Mutable → Except LiteralFault Unit
  | none => .ok ()
  | some type => .error (.unhashable type)

mutual

/-- What matters of the value of a literal. -/
def value : Tree → Except LiteralFault Mutable
  | node (.constant _) _ _ => .ok none
  | node .tuple _ parts => values parts
  | node .set _ parts => do
    checkMembers parts
    return some "set"
  | node .table _ parts => do
    checkEntries parts
    return some "dict"
  | node .call line parts => match parts with
    | [node (.name "set") _ _] => .ok (some "set")
    | _ => .error (.noLiteral line)
  | node .sum line [left, right] => (checkComplex line left right).map fun _ => none
  | node .difference line [left, right] => (checkComplex line left right).map fun _ => none
  | node .signed line parts => (signedFigure (node .signed line parts)).map fun _ => none
  | node _ line _ => .error (.noLiteral line)

/-- The same for the parts of a tuple. -/
def values : List Tree → Except LiteralFault Mutable
  | [] => .ok none
  | t :: ts => do
    let v ← value t
    let vs ← values ts
    return v.or vs

/-- Checks the parts of a set in turn. -/
def checkMembers : List Tree → Except LiteralFault Unit
  | [] => .ok ()
  | t :: ts => do
    checkKey (← value t)
    checkMembers ts

/-- Checks the entries of a table in turn. -/
def checkEntries : List Tree → Except LiteralFault Unit
  | [] => .ok ()
  | node .entry _ [k, v] :: ts => do
    let key ← value k
    let _ ← value v
    checkKey key
    checkEntries ts
  | _ :: _ => .error (.noLiteral none)

end

end Tree

/-- What is told about a text, and why it is no literal, if it is none. -/
structure LiteralCheck where
  cautions : List Caution
  fault : Option LiteralFault
  deriving DecidableEq, Repr

/-- Checks that a text is a literal, given which names characters have. -/
def checkLiteral (isName : List Char → Bool) (cs : List Char) : LiteralCheck :=
  if '\x00' ∈ cs then ⟨[], some .zeroInText⟩
  else
    let r := read isName (cs.dropWhile fun c => c = ' ' ∨ c = '\t')
    ⟨r.cautions, match r.outcome with
      | .error (.wording wording) => some (.noExpression wording)
      | .error .tooDeep => some .tooDeep
      | .ok t => match t.value with
        | .ok _ => none
        | .error f => some f⟩

end Promptbook.Expression
