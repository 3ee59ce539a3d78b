import Promptbook.Text.Printable
import Promptbook.Expression.Numeral

/-!
# Cutting a text into tokens

Outside brackets the ends of lines are tokens, and so is every change of the blanks in front of
them; lines that hold nothing but a comment are passed over.  The first fault ends the tokens.
-/

namespace Promptbook.Expression

/-- How many blanks stand in front of a line, with tabulators up to columns of eight and with
tabulators as single blanks. -/
structure Margin where
  wide : Nat
  narrow : Nat
  deriving DecidableEq, Repr

namespace Margin

/-- The margin behind one more blank; a form feed starts anew. -/
def push (m : Margin) (c : Char) : Margin :=
  if c = '\t' then ⟨(m.wide / 8 + 1) * 8, m.narrow + 1⟩
  else if c = '\x0c' then ⟨0, 0⟩
  else ⟨m.wide + 1, m.narrow + 1⟩

end Margin

/-- Whether the character separates tokens in a line. -/
def isSpacing (c : Char) : Bool := c == ' ' || c == '\t' || c == '\x0c'

/-- How many brackets may be open. -/
def bracketLimit : Nat := 200

/-- How many margins a text may have. -/
def marginLimit : Nat := 100

namespace Lexer

/-- Where the reader of characters stands: the line, the open brackets and the margins that have
been entered, and whether a line starts here. -/
structure State where
  line : Nat
  opened : List Bracket := []
  margins : List Margin := []
  atStart : Bool := true
  deriving DecidableEq, Repr

/-- What the reader does next. -/
inductive Step where
  | next (tokens : List Token) (s : State) (rest : List Char)
  | stop (f : TokenFault)
  deriving DecidableEq, Repr

namespace State

/-- A token of the line. -/
def token (s : State) (l : Lexeme) : Token := { lexeme := l, line := s.line, opened := s.opened }

/-- The state behind the end of a line; the end of the text starts no line. -/
def nextLine (s : State) (rest : List Char) : State :=
  if rest.isEmpty then s else { s with line := s.line + 1 }

/-- The innermost margin. -/
def margin (s : State) : Margin := s.margins.head?.getD ⟨0, 0⟩

/-- The blanks in front of a line, joined with those of the next one behind a backslash; the first
such line that has a margin gives it. -/
def readMargin (s : State) (kept : Nat) (m : Margin) :
    List Char → Except TokenFault (State × Margin × List Char)
  | ['\\', '\n'] => .error .unfinished
  | '\\' :: '\n' :: cs =>
    readMargin { s with line := s.line + 1 } (if kept = 0 then m.wide else kept) m cs
  | '\\' :: _ => .error .strayBackslash
  | c :: cs =>
    if isSpacing c then readMargin s kept (m.push c) cs
    else .ok (s, if kept = 0 then m else ⟨kept, kept⟩, c :: cs)
  | [] => .ok (s, if kept = 0 then m else ⟨kept, kept⟩, [])

/-- Enters or leaves margins in front of a line. -/
def enter (s : State) (m : Margin) (rest : List Char) : Step :=
  let s := { s with atStart := false }
  if m.wide = s.margin.wide then
    if m.narrow = s.margin.narrow then .next [] s rest else .stop .mixedBlanks
  else if s.margin.wide < m.wide then
    if marginLimit ≤ s.margins.length + 1 then .stop .tooManyIndents
    else if m.narrow ≤ s.margin.narrow then .stop .mixedBlanks
    else .next [s.token .indent] { s with margins := m :: s.margins } rest
  else
    let outer := { s with margins := s.margins.dropWhile (m.wide < ·.wide) }
    let left := s.margins.length - outer.margins.length
    if m.wide ≠ outer.margin.wide then .stop .unaligned
    else if m.narrow ≠ outer.margin.narrow then .stop .mixedBlanks
    else .next (List.replicate left (s.token .dedent)) outer rest

/-- The start of a line. -/
def startLine (s : State) (cs : List Char) : Step :=
  match s.readMargin 0 ⟨0, 0⟩ cs with
  | .error f => .stop f
  | .ok (s, m, rest) =>
    match rest.head? with
    | some '\n' => .next [] (s.nextLine rest.tail) rest.tail
    | some '#' =>
      let rest := rest.dropWhile (· ≠ '\n')
      if rest.isEmpty then .next [] { s with atStart := false } []
      else .next [] (s.nextLine rest.tail) rest.tail
    | _ => s.enter m rest

/-- The content of a string of one line behind its quote, and what follows; else how many ends of
lines it has come across.  A backslash keeps a character from ending the string. -/
def oneLine (quote : Char) : List Char → List Char → Except Nat (List Char × List Char)
  | before, [] => .error (before.tail.count '\n')
  | before, '\n' :: _ => .error (before.count '\n')
  | before, '\\' :: c :: cs => oneLine quote (c :: '\\' :: before) cs
  | before, c :: cs =>
    if c = quote then .ok (before.reverse, cs) else oneLine quote (c :: before) cs

/-- The same for a string that ends with three quotes. -/
def manyLines (quote : Char) : List Char → List Char → Except Nat (List Char × List Char)
  | before, [] => .error (before.tail.count '\n')
  | before, '\\' :: c :: cs => manyLines quote (c :: '\\' :: before) cs
  | before, c :: cs =>
    if c = quote ∧ cs.take 2 = [quote, quote] then .ok (before.reverse, cs.drop 2)
    else manyLines quote (c :: before) cs

/-- A string behind its first quote, under the letters that stand in front of it. -/
def quotation (s : State) (letters : List Char) (quote : Char) (cs : List Char) : Step :=
  let long := cs.take 2 = [quote, quote]
  match if long then manyLines quote [] (cs.drop 2) else oneLine quote [] cs with
  | .ok (body, rest) =>
    let q : Quotation := ⟨'b' ∈ letters, 'r' ∈ letters, 'f' ∈ letters, long, body⟩
    .next [s.token (.quotation q)] { s with line := s.line + body.count '\n' } rest
  | .error lines =>
    .stop (.worded ((if long then "unterminated triple-quoted string" else "unterminated string") ++
      " literal (detected at line " ++ Text.decimal (s.line + lines : Nat) ++ ")"))

/-- A numeral. -/
def figure (s : State) (cs : List Char) : Step :=
  match Numeral.read cs with
  | .ok (found, rest) =>
    let caution := found.caution.map fun kind => ⟨s.line, kind⟩
    let atEnd := Numeral.lastWordFollows rest
    .next [{ s.token found.lexeme with caution := caution, atEnd := atEnd }] s rest
  | .error wording => .stop (.worded wording)

/-- The code of a character in messages. -/
def code (c : Char) : String := "U+" ++ String.ofList ((Text.hex 4 c.toNat).map Char.toUpper)

/-- The wording of a character that stands in no token. -/
def badChar (c : Char) : String :=
  if Text.isPrintable c then "invalid character '" ++ c.toString ++ "' (" ++ code c ++ ")"
  else "invalid non-printable character " ++ code c

/-- The first character of a word that keeps it from being a name. -/
def badChar? : List Char → Option Char
  | [] => none
  | c :: cs => if Text.startsName c then cs.find? fun d => !Text.continuesName d else some c

/-- A name or a reserved word. -/
def word (s : State) (cs rest : List Char) : Step :=
  match badChar? cs with
  | some c => .stop (.worded (badChar c))
  | none =>
    let text := String.ofList cs
    .next [s.token (if text ∈ reservedWords then .mark text else .name text)] s rest

/-- The letters that may stand in front of a string. -/
def stringMarks : List String := ["b", "r", "u", "f", "br", "rb", "fr", "rf"]

/-- A word, or a string whose quote follows letters directly. -/
def wordOrString (s : State) (cs : List Char) : Step :=
  let letters := cs.takeWhile Numeral.isNameChar
  let rest := cs.drop letters.length
  let small := Text.asciiLower letters
  match rest with
  | quote :: more =>
    if (quote = '\'' ∨ quote = '"') ∧ String.ofList small ∈ stringMarks then
      s.quotation small quote more
    else s.word letters rest
  | [] => s.word letters rest

/-- The operators of more than one character, longer ones before their beginnings. -/
def operators : List String :=
  longOperators ++ [
    "**", "//", ">>", "<<", "->", ":=", "==", "!=", "<=", ">=", "<>", "+=", "-=", "*=", "/=", "%=",
    "&=", "|=", "^=", "@="]

/-- The bracket that an opening one is closed by. -/
def closing (c : Char) : Char := if c = '(' then ')' else if c = '[' then ']' else '\x7d'

/-- A bracket, or another mark of one character. -/
def mark (s : State) (c : Char) (rest : List Char) : Step :=
  if c = '(' ∨ c = '[' ∨ c = '\x7b' then
    if bracketLimit ≤ s.opened.length then .stop (.worded "too many nested parentheses")
    else go { s with opened := ⟨c, s.line⟩ :: s.opened }
  else if c = ')' ∨ c = ']' ∨ c = '\x7d' then match s.opened with
    | [] => .stop (.worded ("unmatched '" ++ c.toString ++ "'"))
    | b :: opened =>
      if closing b.sign = c then go { s with opened := opened }
      else .stop (.worded ("closing parenthesis '" ++ c.toString ++
        "' does not match opening parenthesis '" ++ b.sign.toString ++ "'" ++
        if b.line = s.line then "" else " on line " ++ Text.decimal b.line))
  else if Text.isPrintable c then go s
  else .stop (.worded ("invalid non-printable character " ++ code c))
where
  /-- The token under the brackets behind it. -/
  go (s : State) : Step := .next [s.token (.mark c.toString)] s rest

/-- The next token on a line, or what is passed over before it. -/
def step (s : State) (c : Char) (cs : List Char) : Step :=
  if isSpacing c then .next [] s cs
  else if c = '#' then .next [] s (cs.dropWhile (· ≠ '\n'))
  else if c = '\n' then
    if s.opened.isEmpty then .next [s.token .lineEnd] { s.nextLine cs with atStart := true } cs
    else .next [] (s.nextLine cs) cs
  else if c = '\\' then match cs with
    | ['\n'] => .stop .unfinished
    | '\n' :: rest => .next [] { s with line := s.line + 1 } rest
    | _ => .stop .strayBackslash
  else if c = '\'' ∨ c = '"' then s.quotation [] c cs
  else if c.isDigit ∨ c = '.' ∧ cs.head?.any Char.isDigit then s.figure (c :: cs)
  else if Numeral.isNameChar c then s.wordOrString (c :: cs)
  else match operators.find? fun sign => sign.toList.isPrefixOf (c :: cs) with
    | some sign => .next [s.token (.mark sign)] s (cs.drop (sign.length - 1))
    | none => s.mark c cs

/-- The tokens of a text from a state on, given a bound on their number. -/
def run : Nat → State → List Char → List Token
  | 0, s, _ => [s.token .finish]
  | n + 1, s, cs =>
    let step := match cs with
      | c :: cs' => if s.atStart then s.startLine cs else s.step c cs'
      | [] => if s.atStart then s.startLine cs else .next [] s []
    match step with
    | .stop f => [s.token (.fault f)]
    | .next ts s' rest =>
      if rest.isEmpty ∧ !s'.atStart then
        ts.map (fun t => { t with atEnd := t.lexeme.isOpen }) ++
          [s'.token (if s'.opened.isEmpty then .finish else .fault .unfinished)]
      else ts ++ run n s' rest

end State

end Lexer

/-- A text whose lines all end in the same way. -/
def withLineEnds : List Char → List Char
  | '\r' :: '\n' :: cs => '\n' :: withLineEnds cs
  | c :: cs => (if c = '\r' then '\n' else c) :: withLineEnds cs
  | [] => []

/-- The tokens of a text whose first line has a number. -/
def tokens (line : Nat) (cs : List Char) : Array Token :=
  let cs := withLineEnds cs
  (Lexer.State.run (2 * cs.length + 2) { line := line } cs).toArray

end Promptbook.Expression
