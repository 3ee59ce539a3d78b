import Promptbook.Json.Value
import Promptbook.Number.Double
import Promptbook.Text.Digit

/-!
# JSON tokens

A text is cut into tokens in one pass over its characters.  Each token keeps the position of its
first character.  A character that starts no token ends the pass, and so does a string that is
ill-formed; what follows either is never read.
-/

namespace Promptbook.Json

/-- What can be wrong inside a string. -/
inductive StringFault where
  | unterminated
  | control
  | escape
  | unicodeEscape
  deriving DecidableEq, Repr

/-- A token. -/
inductive Token where
  | openArray
  | closeArray
  | openObject
  | closeObject
  | comma
  | colon
  /-- A constant. -/
  | scalar (j : Json)
  /-- A number: its value, and how many digits stand before its point. -/
  | number (j : Json) (digits : Nat)
  | string (s : Spelling)
  /-- A string with a fault, and the position of the fault. -/
  | faulty (fault : StringFault) (position : Nat)
  /-- A character that starts no token. -/
  | stray
  /-- The end of the text. -/
  | finish
  deriving Repr

/-- A token and the position where it starts. -/
structure Lexeme where
  token : Token
  start : Nat
  deriving Repr

/-- The content of a string so far, the last code point first. -/
structure Content where
  points : List CodePoint := []
  /-- The first half of a surrogate pair, when the last escape was one. -/
  high : Option Nat := none
  /-- The position of the last escape by code unit, when nothing follows it yet. -/
  mark : Option Nat := none

namespace Content

/-- Adds half of a surrogate pair that stays alone. -/
def pushHalf (c : Content) (unit : Nat) : Content := { c with points := .half unit :: c.points }

/-- A first half that no second one follows stays alone. -/
def settle (c : Content) : Content :=
  let settled : Content := { c with high := none, mark := none }
  c.high.elim settled settled.pushHalf

/-- Adds a character. -/
def push (c : Content) (x : Char) : Content :=
  let c := c.settle
  { c with points := .char x :: c.points }

/-- Adds a UTF-16 code unit that was escaped at a position. -/
def pushUnit (c : Content) (unit mark : Nat) : Content :=
  match c.high with
  | some high =>
    if 0xdc00 ≤ unit ∧ unit < 0xe000 then
      { c with
        points :=
          .char (Char.ofNat (0x10000 + (high - 0xd800) * 0x400 + (unit - 0xdc00))) :: c.points,
        high := none, mark := some mark }
    else alone c.settle
  | none => alone c
where
  /-- Adds a code unit that does not complete a pair. -/
  alone (c : Content) : Content :=
    if 0xd800 ≤ unit ∧ unit < 0xdc00 then { c with high := some unit, mark := some mark }
    else if 0xdc00 ≤ unit ∧ unit < 0xe000 then { c.pushHalf unit with mark := some mark }
    else { c with points := .char (Char.ofNat unit) :: c.points, mark := some mark }

/-- The token of a string that has ended. -/
def token (c : Content) : Token :=
  .string ⟨c.settle.points.reverse⟩

end Content

/-- How far a number has been read. -/
inductive Stage where
  | minus
  | zero
  | whole
  | point
  | places
  | mark
  | markSign
  | power
  deriving DecidableEq, Repr

/-- A number so far: its digits as one whole number, how many of them stand before and after the
point, and its power of ten. -/
structure Numeric where
  stage : Stage
  negative : Bool := false
  mantissa : Nat := 0
  digits : Nat := 0
  places : Nat := 0
  powerNegative : Bool := false
  power : Nat := 0

namespace Numeric

/-- The value of the digits read, the power of ten included when it is `counted`. -/
def value (n : Numeric) (counted : Bool) : Json :=
  if n.places = 0 ∧ !counted then .integer (if n.negative then -n.mantissa else n.mantissa)
  else
    let power : Int := if counted then (if n.powerNegative then -n.power else n.power) else 0
    .number (Double.ofDecimal n.negative n.mantissa (power - n.places))

/-- The token of a number, the power of ten included when it is `counted`. -/
def token (n : Numeric) (counted : Bool) : Token :=
  .number (n.value counted) n.digits

/-- The tokens of a number that ends before a position: its value, and a stray character where a
point or an exponent mark has no digits. -/
def lexemes (n : Numeric) (start finish : Nat) : List Lexeme :=
  match n.stage with
  | .minus => [⟨.stray, start⟩]
  | .zero | .whole | .places => [⟨n.token false, start⟩]
  | .point | .mark => [⟨n.token false, start⟩, ⟨.stray, finish - 1⟩]
  | .markSign => [⟨n.token false, start⟩, ⟨.stray, finish - 2⟩]
  | .power => [⟨n.token true, start⟩]

/-- Whether a number may end where it stands. -/
def complete (n : Numeric) : Bool :=
  match n.stage with
  | .zero | .whole | .places | .power => true
  | .minus | .point | .mark | .markSign => false

/-- The number with one more character, if that belongs to it. -/
def next? (n : Numeric) (c : Char) : Option Numeric :=
  let digit := c.toNat - 0x30
  let more := { n with mantissa := 10 * n.mantissa + digit }
  match n.stage with
  | .minus =>
    if c = '0' then some { n with stage := .zero, digits := 1 }
    else if c.isDigit then some { more with stage := .whole, digits := 1 }
    else none
  | .zero => afterWhole
  | .whole => if c.isDigit then some { more with digits := n.digits + 1 } else afterWhole
  | .point | .places =>
    if c.isDigit then some { more with stage := .places, places := n.places + 1 }
    else if n.stage = .places then exponentMark
    else none
  | .mark =>
    if c = '+' ∨ c = '-' then some { n with stage := .markSign, powerNegative := c = '-' }
    else exponentDigit digit
  | .markSign | .power => exponentDigit digit
where
  /-- A point or an exponent mark after the whole digits. -/
  afterWhole : Option Numeric :=
    if c = '.' then some { n with stage := .point } else exponentMark
  /-- The mark in front of an exponent. -/
  exponentMark : Option Numeric :=
    if c = 'e' ∨ c = 'E' then some { n with stage := .mark } else none
  /-- A digit of the exponent. -/
  exponentDigit (digit : Nat) : Option Numeric :=
    if c.isDigit then some { n with stage := .power, power := 10 * n.power + digit } else none

end Numeric

/-- What the pass is in the middle of. -/
inductive Mode where
  /-- Between tokens. -/
  | between
  | string (start : Nat) (content : Content)
  /-- After a backslash. -/
  | escape (start : Nat) (content : Content)
  /-- In the digits of an escaped code unit: where its mark stands, how many digits are missing,
  and the value of those read. -/
  | unit (start : Nat) (content : Content) (mark missing value : Nat)
  | number (start : Nat) (n : Numeric)
  /-- In a constant: the characters it still needs and its value. -/
  | constant (start : Nat) (rest : List Char) (j : Json)
  /-- After a stray character or a faulty string. -/
  | halted

/-- The state of the pass: the position of the next character, and the tokens found so far, the
last one first. -/
structure Scan where
  position : Nat := 0
  mode : Mode := .between
  found : List Lexeme := []

namespace Scan

/-- Adds tokens, the first one first. -/
def emit (s : Scan) (ls : List Lexeme) : Scan := { s with found := ls.reverse ++ s.found }

/-- The scan in another mode. -/
def enter (s : Scan) (m : Mode) : Scan := { s with mode := m }

/-- Begins a token with a character, or skips it. -/
def begin (s : Scan) (c : Char) : Scan :=
  let i := s.position
  if c = ' ' ∨ c = '\t' ∨ c = '\n' ∨ c = '\r' then s
  else match c with
    | '[' => s.emit [⟨.openArray, i⟩]
    | ']' => s.emit [⟨.closeArray, i⟩]
    | '\x7b' => s.emit [⟨.openObject, i⟩]
    | '\x7d' => s.emit [⟨.closeObject, i⟩]
    | ',' => s.emit [⟨.comma, i⟩]
    | ':' => s.emit [⟨.colon, i⟩]
    | '"' => s.enter (.string i {})
    | '-' => s.enter (.number i { stage := .minus, negative := true })
    | 'n' => s.enter (.constant i ['u', 'l', 'l'] .null)
    | 't' => s.enter (.constant i ['r', 'u', 'e'] (.bool true))
    | 'f' => s.enter (.constant i ['a', 'l', 's', 'e'] (.bool false))
    | 'N' => s.enter (.constant i ['a', 'N'] (.number Double.notANumber))
    | 'I' => s.enter (.constant i "nfinity".toList (.number Double.infinity))
    | c =>
      match ({ stage := .minus } : Numeric).next? c with
      | some n => s.enter (.number i n)
      | none => (s.emit [⟨.stray, i⟩]).enter .halted

/-- The character that an escape of one letter stands for. -/
def escaped? : Char → Option Char
  | '"' => some '"'
  | '\\' => some '\\'
  | '/' => some '/'
  | 'b' => some '\x08'
  | 'f' => some '\x0c'
  | 'n' => some '\n'
  | 'r' => some '\r'
  | 't' => some '\t'
  | _ => none

/-- Ends the pass with a faulty string. -/
def fail (s : Scan) (start : Nat) (fault : StringFault) (position : Nat) : Scan :=
  (s.emit [⟨.faulty fault position, start⟩]).enter .halted

/-- Reads one character without moving on. -/
def read (s : Scan) (c : Char) : Scan :=
  let i := s.position
  match s.mode with
  | .halted => s
  | .between => s.begin c
  | .string start content =>
    if c = '"' then (s.emit [⟨content.token, start⟩]).enter .between
    else if c = '\\' then s.enter (.escape start { content with mark := none })
    else if c.toNat < 0x20 then s.fail start .control i
    else s.enter (.string start (content.push c))
  | .escape start content =>
    if c = 'u' then s.enter (.unit start content i 4 0)
    else match escaped? c with
      | some x => s.enter (.string start (content.push x))
      | none => s.fail start .escape (i - 1)
  | .unit start content mark missing value =>
    match Text.hexValue? c with
    | none => s.fail start .unicodeEscape mark
    | some d =>
      let value := 16 * value + d
      if missing ≤ 1 then s.enter (.string start (content.pushUnit value mark))
      else s.enter (.unit start content mark (missing - 1) value)
  | .number start n =>
    match n.next? c with
    | some n => s.enter (.number start n)
    | none =>
      if n.stage = .minus ∧ c = 'I' then
        s.enter (.constant start "nfinity".toList (.number (-Double.infinity)))
      else
        let s := s.emit (n.lexemes start i)
        if n.complete then (s.enter .between).begin c else s.enter .halted
  | .constant start rest j =>
    match rest with
    | [x] => if c = x then (s.emit [⟨.scalar j, start⟩]).enter .between else stray start
    | x :: rest => if c = x then s.enter (.constant start rest j) else stray start
    | [] => stray start
where
  /-- Ends the pass at the character a constant would have started with. -/
  stray (start : Nat) : Scan := (s.emit [⟨.stray, start⟩]).enter .halted

/-- Reads one character. -/
def step (s : Scan) (c : Char) : Scan :=
  { s.read c with position := s.position + 1 }

/-- The tokens of a text that ends here. -/
def close (s : Scan) : List Lexeme :=
  let s := match s.mode with
    | .between | .halted => s
    | .string start content =>
      match content.mark with
      | some mark => s.fail start .unicodeEscape mark
      | none => s.fail start .unterminated start
    | .escape start _ => s.fail start .unterminated start
    | .unit start _ mark _ _ => s.fail start .unicodeEscape mark
    | .number start n => s.emit (n.lexemes start s.position)
    | .constant start _ _ => s.emit [⟨.stray, start⟩]
  (s.emit [⟨.finish, s.position⟩]).found.reverse

end Scan

/-- The tokens of a text, closed by the end of the text. -/
def lex (cs : List Char) : List Lexeme := (cs.foldl Scan.step {}).close

end Promptbook.Json
