import Promptbook.Number.Numeral
import Promptbook.Text.Letter
import Promptbook.Expression.Token

/-!
# Numerals in expressions

Numerals are written in four bases, with single separators between digits; decimal ones may have a
point, an exponent and the mark of an imaginary number.  A name may not follow a numeral directly,
except for the words that may stand behind an operand.
-/

namespace Promptbook.Expression.Numeral

/-- What a numeral may be. -/
inductive Form where
  | decimal
  | hexadecimal
  | octal
  | binary
  | imaginary
  deriving DecidableEq, Repr

namespace Form

/-- The word for a form. -/
def word : Form → String
  | decimal => "decimal"
  | hexadecimal => "hexadecimal"
  | octal => "octal"
  | binary => "binary"
  | imaginary => "imaginary"

/-- The wording of a numeral that is not of its form. -/
def invalid (f : Form) : String := "invalid " ++ f.word ++ " literal"

/-- The base of the digits. -/
def base : Form → Nat
  | hexadecimal => 16
  | octal => 8
  | binary => 2
  | _ => 10

/-- Whether the character is a digit of the base. -/
def isDigit (f : Form) (c : Char) : Bool := (Text.hexValue? c).any (· < f.base)

/-- The number that digits and separators stand for. -/
def value (f : Form) (cs : List Char) : Nat :=
  (cs.filterMap Text.hexValue?).foldl (fun n d => f.base * n + d) 0

end Form

/-- Whether the character may stand in a name, as far as its kind tells. -/
def isNameChar (c : Char) : Bool := c.isAlphanum || c == '_' || 0x80 ≤ c.toNat

/-- The words that may follow a numeral directly, each with whether it has to end there. -/
def followers : List (List Char × Bool) := [
  ("and".toList, true), ("else".toList, true), ("for".toList, true), ("if".toList, false),
  ("in".toList, false), ("is".toList, false), ("or".toList, true), ("not".toList, true)]

/-- Whether a word follows that may stand behind a numeral. -/
def wordFollows (cs : List Char) : Bool :=
  followers.any fun (word, ends) =>
    word.isPrefixOf cs && (!ends || !(cs.drop word.length).head?.any isNameChar)

/-- Whether nothing follows but a word that has to end there. -/
def lastWordFollows (cs : List Char) : Bool := followers.any fun (word, ends) => ends && word == cs

/-- The end of a numeral: whether it runs into a word.  A name is refused. -/
def ending (f : Form) (cs : List Char) : Except String (Option String) :=
  if wordFollows cs then .ok (some f.invalid)
  else if cs.head?.any isNameChar then .error f.invalid
  else .ok none

/-- What follows decimal digits and separators. -/
def afterDigits : List Char → Except String (List Char)
  | '_' :: c :: cs => if c.isDigit then afterDigits cs else .error Form.decimal.invalid
  | ['_'] => .error Form.decimal.invalid
  | c :: cs => if c.isDigit then afterDigits cs else .ok (c :: cs)
  | [] => .ok []

/-- A numeral: what it stands for, and what it runs into. -/
structure Found where
  lexeme : Lexeme
  caution : Option String
  deriving DecidableEq, Repr

/-- A numeral with places or an exponent, or one that ends with the mark of an imaginary number,
from that mark on. -/
def mantissaEnd (cs : List Char) : Except String (Found × List Char) :=
  match cs with
  | 'j' :: rest | 'J' :: rest =>
    (ending .imaginary rest).map fun caution => (⟨.figure .imaginary, caution⟩, rest)
  | _ => (ending .decimal cs).map fun caution => (⟨.figure .fraction, caution⟩, cs)

/-- A numeral from its exponent on.  An e without digits is none, but may start a word. -/
def exponent (plain : Lexeme) (cs : List Char) : Except String (Found × List Char) :=
  match cs with
  | e :: sign :: rest =>
    if e ≠ 'e' ∧ e ≠ 'E' then mantissaEnd cs
    else if sign = '+' ∨ sign = '-' then
      if rest.head?.any Char.isDigit then afterDigits rest >>= mantissaEnd
      else .error Form.decimal.invalid
    else if sign.isDigit then afterDigits rest >>= mantissaEnd
    else (ending .decimal cs).map fun caution => (⟨plain, caution⟩, cs)
  | _ => mantissaEnd cs

/-- A numeral behind its point. -/
def places (cs : List Char) : Except String (Found × List Char) := do
  exponent (.figure .fraction) (← if cs.head?.any Char.isDigit then afterDigits cs else .ok cs)

/-- The lexeme of decimal digits and separators. -/
def whole (cs : List Char) : Lexeme :=
  let count := (cs.filter Char.isDigit).length
  let value := Form.decimal.value cs
  if Promptbook.Numeral.digitLimit < count ∧ value ≠ 0 then .longFigure count
  else .figure (.whole value)

/-- A decimal numeral.  A whole number other than zero does not start with a zero. -/
def decimal (cs : List Char) : Except String (Found × List Char) := do
  let rest ← afterDigits cs
  let digits := cs.take (cs.length - rest.length)
  match rest with
  | '.' :: rest => places rest
  | _ =>
    if rest.head?.any (· ∈ ['e', 'E', 'j', 'J']) then exponent (whole digits) rest
    else if digits.head? = some '0' ∧ digits.any (fun c => c ≠ '0' ∧ c ≠ '_') then
      .error ("leading zeros in decimal integer literals are not permitted; " ++
        "use an 0o prefix for octal integers")
    else (ending .decimal rest).map fun caution => (⟨whole digits, caution⟩, rest)

/-- What follows digits of a base and separators. -/
def afterBase (f : Form) : List Char → Except String (List Char)
  | '_' :: c :: cs => if f.isDigit c then afterBase f cs else wrong c
  | ['_'] => .error f.invalid
  | c :: cs =>
    if f.isDigit c then afterBase f cs else if c.isDigit then wrong c else .ok (c :: cs)
  | [] => .ok []
where
  /-- The fault of a character that is no digit of the base. -/
  wrong (c : Char) : Except String (List Char) :=
    .error (if c.isDigit then "invalid digit '" ++ c.toString ++ "' in " ++ f.word ++ " literal"
      else f.invalid)

/-- A numeral of a base behind the two characters that tell the base. -/
def based (f : Form) (cs : List Char) : Except String (Found × List Char) := do
  let rest ← match cs with
    | '_' :: _ => afterBase f cs
    | c :: _ => if f.isDigit c then afterBase f cs else afterBase.wrong f c
    | [] => .error f.invalid
  let value := f.value (cs.take (cs.length - rest.length))
  (ending f rest).map fun caution => (⟨.figure (.whole value), caution⟩, rest)

/-- A numeral; the text starts with a digit, or with a point and a digit. -/
def read (cs : List Char) : Except String (Found × List Char) :=
  match cs with
  | '.' :: cs => places cs
  | '0' :: 'x' :: cs | '0' :: 'X' :: cs => based .hexadecimal cs
  | '0' :: 'o' :: cs | '0' :: 'O' :: cs => based .octal cs
  | '0' :: 'b' :: cs | '0' :: 'B' :: cs => based .binary cs
  | _ => decimal cs

end Promptbook.Expression.Numeral
