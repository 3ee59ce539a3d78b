import Promptbook.Text.Digit

/-!
# Tokens

What the text of an expression is cut into.  A token carries its line and the brackets that are
open behind it; the last token is the end of the text or a fault.
-/

namespace Promptbook.Expression

/-- A number as far as expressions tell numbers apart. -/
inductive Figure where
  | whole (n : Nat)
  /-- A number with a point or an exponent. -/
  | fraction
  | imaginary
  deriving DecidableEq, Repr

/-- A string as it is written, between its quotes. -/
structure Quotation where
  /-- It stands for bytes. -/
  bytes : Bool
  /-- A backslash in it is a character like others. -/
  raw : Bool
  /-- It has fields in braces. -/
  template : Bool
  /-- Its quotes stand three times. -/
  long : Bool
  body : List Char
  deriving DecidableEq, Repr

/-- A bracket that is open, with its line. -/
structure Bracket where
  sign : Char
  line : Nat
  deriving DecidableEq, Repr

/-- What may be told of a text besides faults: a number of a kind runs into a word. -/
structure Caution where
  line : Nat
  kind : String
  deriving DecidableEq, Repr

/-- The wording of a caution. -/
def Caution.message (c : Caution) : String :=
  "<unknown>:" ++ Text.decimal c.line ++ ": SyntaxWarning: " ++ c.kind

/-- Why a text cannot be cut into tokens to its end. -/
inductive TokenFault where
  /-- A fault in a token, in words. -/
  | worded (wording : String)
  /-- A backslash that does not end a line. -/
  | strayBackslash
  /-- The text ends in a bracket or behind a backslash. -/
  | unfinished
  /-- A line starts left of the line before it and below no other. -/
  | unaligned
  /-- Blanks and tabulators in front of two lines do not compare. -/
  | mixedBlanks
  | tooManyIndents
  deriving DecidableEq, Repr

/-- What a token is. -/
inductive Lexeme where
  | name (word : String)
  /-- An operator, a bracket or a reserved word. -/
  | mark (text : String)
  | figure (f : Figure)
  /-- A whole number with more digits than are read. -/
  | longFigure (digits : Nat)
  | quotation (q : Quotation)
  | lineEnd
  | indent
  | dedent
  | finish
  | fault (f : TokenFault)
  deriving DecidableEq, Repr

/-- A token with its line and the brackets open behind it, the innermost first. -/
structure Token where
  lexeme : Lexeme
  line : Nat
  opened : List Bracket
  caution : Option Caution := none
  /-- The end of the text has ended it. -/
  atEnd : Bool := false
  deriving DecidableEq, Repr

/-- The operators that end by themselves. -/
def longOperators : List String := ["...", "**=", "//=", ">>=", "<<="]

/-- Whether a token is ended by what follows it. -/
def Lexeme.isOpen : Lexeme → Bool
  | name _ | figure _ | longFigure _ => true
  | mark text => text ∉ longOperators
  | quotation q => q.body.isEmpty && !q.long
  | _ => false

/-- The wording of a bracket that stays open. -/
def Bracket.unclosed (b : Bracket) : String := "'" ++ b.sign.toString ++ "' was never closed"

/-- The wording of a fault behind which brackets are open. -/
def TokenFault.message (opened : List Bracket) : TokenFault → String
  | worded wording => wording
  | strayBackslash => "unexpected character after line continuation character"
  | unfinished => (opened.head?.map Bracket.unclosed).getD "unexpected EOF while parsing"
  | unaligned => "unindent does not match any outer indentation level"
  | mixedBlanks => "inconsistent use of tabs and spaces in indentation"
  | tooManyIndents => "too many levels of indentation"

/-- The words that are no names. -/
def reservedWords : List String := [
  "False", "None", "True", "and", "as", "assert", "async", "await", "break", "class", "continue",
  "def", "del", "elif", "else", "except", "finally", "for", "from", "global", "if", "import", "in",
  "is", "lambda", "nonlocal", "not", "or", "pass", "raise", "return", "try", "while", "with",
  "yield"]

/-- The names that are reserved in some places. -/
def softWords : List String := ["_", "case", "match"]

end Promptbook.Expression
