import Promptbook.Number.Numeral
import Promptbook.Record.Problem
import Promptbook.Vocabulary

/-!
# Scalars of a document

Which JSON values stand for texts, numbers, whole numbers, flags and words.  Numbers and flags may
also be written as texts, and flags as numbers; bounds are checked on the number that results.
-/

namespace Promptbook.Record

/-- The bounds of a number. -/
inductive Range where
  | all
  | between (least most : Float)
  | atLeast (least : Float)
  | above (bound : Float)
  deriving DecidableEq, Repr

/-- The first bound that a number does not keep to, the upper one before the lower. -/
def Range.fault? (x : Float) : Range → Option Fault
  | all => none
  | between least most =>
    if x ≤ most then if least ≤ x then none else some (.belowLeast least)
    else some (.aboveMost most)
  | atLeast least => if least ≤ x then none else some (.belowLeast least)
  | above bound => if bound < x then none else some (.notAbove bound)

/-- A value, unless there is a fault. -/
def within {τ : Type} (fault : Option Fault) (t : τ) : Except Fault τ :=
  fault.elim (.ok t) .error

/-- A text; halves of surrogate pairs are let pass. -/
def readText : Json → Except Fault Spelling
  | .text s => .ok s
  | _ => .error .notText

/-- A value that is spelled out, which takes a text without halves of surrogate pairs. -/
def readSpelled {τ : Type} (read : String → Except Fault τ) (s : Spelling) : Except Fault τ :=
  s.text?.elim (.error .brokenText) read

/-- Where a value stands: in a document, or in a list for which a text may stand as well. -/
inductive Site where
  | document
  | embedded
  deriving DecidableEq, Repr

/-- The double that a whole number stands for.  One that is too large is infinite in a document,
and stands for none elsewhere. -/
def numberOfInteger (site : Site) (n : Int) : Except Fault Float :=
  let x := Double.ofInt n
  if site = .embedded ∧ !x.isFinite then .error .notNumber else .ok x

/-- The double that a value stands for. -/
def toNumber (site : Site) : Json → Except Fault Float
  | .number x => .ok x
  | .integer n => numberOfInteger site n
  | .bool b => .ok (if b then 1.0 else 0.0)
  | .text s => readSpelled (fun t => (Numeral.ofText? t).elim (.error .notNumeral) .ok) s
  | _ => .error .notNumber

/-- A double within bounds. -/
def readNumber (site : Site) (r : Range) (j : Json) : Except Fault Float := do
  let x ← toNumber site j
  within (r.fault? x) x

/-- The magnitude that a whole number of 64 bits stays below. -/
def wholeLimit : Int := Nat.pow 2 63

/-- The whole number that a double stands for. -/
def wholeNumber (x : Float) : Except Fault Int :=
  match Double.parts x with
  | .error _ => .error .notFinite
  | .ok p =>
    if p.fraction.1 % p.fraction.2 ≠ 0 then .error .fractional
    else
      let n := p.signed (p.fraction.1 / p.fraction.2)
      if -wholeLimit < n ∧ n < wholeLimit then .ok n else .error .outOfRange

/-- What is wrong with a value where a text stands for no whole number. -/
def Fault.ofInt : Numeral.IntFault → Fault
  | .notWhole => notWholeNumeral
  | .tooLong => outOfRange

/-- The whole number that a value stands for. -/
def toInteger : Json → Except Fault Int
  | .integer n => .ok n
  | .bool b => .ok (if b then 1 else 0)
  | .number x => wholeNumber x
  | .text s => readSpelled (fun t => (Numeral.intOfText t).mapError .ofInt) s
  | _ => .error .notInteger

/-- The bound that a whole number does not keep to. -/
def belowLeast? (least : Option Int) (n : Int) : Option Fault :=
  least.bind fun b => if b ≤ n then none else some (.belowLeastInteger b)

/-- A whole number within bounds. -/
def readInteger (least : Option Int) (j : Json) : Except Fault Int := do
  let n ← toInteger j
  within (belowLeast? least n) n

/-- The words for a flag that is down, in lower case. -/
def downWords : List String := ["0", "off", "f", "false", "n", "no"]

/-- The words for a flag that is up, in lower case. -/
def upWords : List String := ["1", "on", "t", "true", "y", "yes"]

/-- The flag that a whole number of 64 bits stands for. -/
def flagOfInteger (n : Int) : Except Fault Bool :=
  if n = 0 then .ok false
  else if n = 1 then .ok true
  else if -wholeLimit ≤ n ∧ n < wholeLimit then .error .unknownFlag
  else .error .notFlag

/-- The flag that a word stands for in any case of its letters. -/
def flagOfWord (s : String) : Except Fault Bool :=
  let word := String.ofList (Text.asciiLower s.toList)
  if word ∈ downWords then .ok false
  else if word ∈ upWords then .ok true
  else .error .unknownFlag

/-- A flag. -/
def readFlag : Json → Except Fault Bool
  | .bool b => .ok b
  | .integer n => flagOfInteger n
  | .number x =>
    match wholeNumber x with
    | .ok n => flagOfInteger n
    | .error _ => .error .notFlag
  | .text s => readSpelled flagOfWord s
  | _ => .error .notFlag

/-- A word of a vocabulary. -/
def readWord {τ : Type} (v : Vocabulary τ) (j : Json) : Except Fault τ :=
  match j with
  | .text s => readSpelled (fun t => (v.ofWord? t).elim (.error (.notWord v.words)) .ok) s
  | _ => .error (.notWord v.words)

/-- The one word that may stand here. -/
def readLiteral (w : String) (j : Json) : Except Fault Unit :=
  match j with
  | .text s => if s = w then .ok () else .error (.notWord [w])
  | _ => .error (.notWord [w])

end Promptbook.Record
