import Promptbook.Json.Reader
import Promptbook.Number.Layout

/-!
# Problems of a document

What may be wrong with a value in a document, and where the value stands.  A document is read to
the end, so that all its problems are told together, each with the path to its place.
-/

namespace Promptbook.Record

/-- One step on the way into a document. -/
inductive Step where
  | key (name : String)
  | index (i : Nat)
  deriving DecidableEq, Repr

/-- A step as it stands in a path. -/
def Step.text : Step → String
  | key name => name
  | index i => Text.decimal i

/-- What is wrong with a value. -/
inductive Fault where
  | missing
  | notObject
  | notArray
  | notText
  /-- A string that is no text. -/
  | brokenText
  | notNumber
  /-- A text that is no numeral where a number is due. -/
  | notNumeral
  | notInteger
  /-- A text that is no whole numeral where a whole number is due. -/
  | notWholeNumeral
  | fractional
  /-- A whole number in fractional notation that is out of range. -/
  | outOfRange
  | notFinite
  | notFlag
  /-- A text or a number that stands for no flag. -/
  | unknownFlag
  | notWord (words : List String)
  | aboveMost (bound : Float)
  | belowLeast (bound : Float)
  | notAbove (bound : Float)
  | belowLeastInteger (bound : Int)
  /-- An entry that ends before it starts. -/
  | endsEarly (finish start : Float)
  /-- A text that holds no JSON where it may stand for a list. -/
  | malformed (fault : Json.Malformed)
  /-- A document that is no JSON. -/
  | invalid
  /-- An object without the tag that tells its kind. -/
  | untagged
  /-- A tag that tells none of the kinds. -/
  | unknownTag (tag : String) (known : List String)
  deriving Repr

/-- A bound as messages show it: without a point if it is whole. -/
def boundText (x : Float) : String :=
  let cs := (Layout.message.render x).toList
  String.ofList (if ['.', '0'].isSuffixOf cs then cs.take (cs.length - 2) else cs)

/-- Words between quotes, the last set off by `or`. -/
def choiceText : List String → String
  | [] => ""
  | [w] => "'" ++ w ++ "'"
  | [v, w] => "'" ++ v ++ "' or '" ++ w ++ "'"
  | w :: ws => "'" ++ w ++ "', " ++ choiceText ws

/-- The wording of a fault. -/
def Fault.message : Fault → String
  | missing => "Field required"
  | notObject => "Input should be an object"
  | notArray => "Input should be a valid array"
  | notText => "Input should be a valid string"
  | brokenText => "Input should be a valid string, unable to parse raw data as a unicode string"
  | notNumber => "Input should be a valid number"
  | notNumeral => "Input should be a valid number, unable to parse string as a number"
  | notInteger => "Input should be a valid integer"
  | notWholeNumeral => "Input should be a valid integer, unable to parse string as an integer"
  | fractional => "Input should be a valid integer, got a number with a fractional part"
  | outOfRange => "Unable to parse input string as an integer, exceeded maximum size"
  | notFinite => "Input should be a finite number"
  | notFlag => "Input should be a valid boolean"
  | unknownFlag => "Input should be a valid boolean, unable to interpret input"
  | notWord words => "Input should be " ++ choiceText words
  | aboveMost bound => "Input should be less than or equal to " ++ boundText bound
  | belowLeast bound => "Input should be greater than or equal to " ++ boundText bound
  | notAbove bound => "Input should be greater than " ++ boundText bound
  | belowLeastInteger bound => "Input should be greater than or equal to " ++ Text.decimal bound
  | endsEarly finish start =>
    "Value error, end_time (" ++ Layout.message.render finish ++ ") must be >= start_time (" ++
      Layout.message.render start ++ ")"
  | malformed fault => "Value error, " ++ fault.message
  | invalid => "Invalid JSON"
  | untagged => "Unable to extract tag using discriminator 'type'"
  | unknownTag tag known =>
    "Input tag '" ++ tag ++ "' found using 'type' does not match any of the expected tags: " ++
      ", ".intercalate (known.map fun w => "'" ++ w ++ "'")

/-- A fault and the path to its place. -/
structure Problem where
  path : List Step
  fault : Fault
  deriving Repr

namespace Problem

/-- The wording of a problem. -/
def message (p : Problem) : String :=
  let place := " -> ".intercalate (p.path.map Step.text)
  if place = "" then p.fault.message else place ++ ": " ++ p.fault.message

/-- The wording of some problems. -/
def messages (ps : List Problem) : String := "; ".intercalate (ps.map message)

/-- The fault of the first text among some problems that is nested too deeply to be read. -/
def tooDeep? (ps : List Problem) : Option Json.Malformed :=
  ps.findSome? fun p => match p.fault with
    | .malformed m => match m.fault with
      | .depth _ => some m
      | _ => none
    | _ => none

/-- The problem as seen from one step further out. -/
def under (s : Step) (p : Problem) : Problem := ⟨s :: p.path, p.fault⟩

end Problem

/-- What reading yields: a value, or all that is wrong. -/
abbrev Checked (τ : Type) := Except (List Problem) τ

namespace Checked

variable {σ τ : Type}

/-- A fault of the value itself. -/
def fail (f : Fault) : Checked τ := .error [⟨[], f⟩]

/-- What was read one step further in. -/
def under (s : Step) : Checked τ → Checked τ
  | .ok t => .ok t
  | .error ps => .error (ps.map (·.under s))

/-- Two values read side by side; the problems of the first come first. -/
def both : Checked σ → Checked τ → Checked (σ × τ)
  | .ok s, .ok t => .ok (s, t)
  | .ok _, .error ps => .error ps
  | .error ps, .ok _ => .error ps
  | .error ps, .error qs => .error (ps ++ qs)

/-- The items of a list, numbered from a position on. -/
def each (read : σ → Checked τ) : Nat → List σ → Checked (List τ)
  | _, [] => .ok []
  | i, x :: xs =>
    (both (under (.index i) (read x)) (each read (i + 1) xs)).map fun r => r.1 :: r.2

@[simp] theorem under_ok (s : Step) (t : τ) : under s (.ok t : Checked τ) = .ok t := rfl

theorem both_eq_ok_iff {a : Checked σ} {b : Checked τ} {r : σ × τ} :
    both a b = .ok r ↔ a = .ok r.1 ∧ b = .ok r.2 := by
  cases r
  cases a <;> cases b <;> simp [both]

end Checked

end Promptbook.Record
