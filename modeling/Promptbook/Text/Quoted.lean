import Promptbook.Text.Printable
import Promptbook.Text.Spelling

/-!
# Quoted text in messages

A text stands between single quotes, or between double quotes when it holds a single quote and no
double one.  Inside, the backslash and the quote in use are escaped, and so is every code point
that is no printable character.
-/

namespace Promptbook.Text

/-- The quote that a text is shown between. -/
def quoteFor (s : Spelling) : Char :=
  if .char '\'' ∈ s.points ∧ .char '"' ∉ s.points then '"' else '\''

/-- How one character is shown between the given quotes. -/
def quotedChar (quote c : Char) : List Char :=
  if c = '\\' ∨ c = quote then ['\\', c]
  else if c = '\n' then ['\\', 'n']
  else if c = '\r' then ['\\', 'r']
  else if c = '\t' then ['\\', 't']
  else if isPrintable c then [c]
  else if c.toNat < 0x100 then '\\' :: 'x' :: hex 2 c.toNat
  else if c.toNat < 0x10000 then '\\' :: 'u' :: hex 4 c.toNat
  else '\\' :: 'U' :: hex 8 c.toNat

/-- How one code point is shown between the given quotes. -/
def quotedPoint (quote : Char) : CodePoint → List Char
  | .char c => quotedChar quote c
  | .half unit => (CodePoint.half unit).shown

/-- A text as messages show it. -/
def quoted (s : Spelling) : String :=
  let quote := quoteFor s
  String.ofList (quote :: s.points.flatMap (quotedPoint quote) ++ [quote])

/-- A list of texts as messages show it. -/
def quotedList (ss : List Spelling) : String :=
  "[" ++ ", ".intercalate (ss.map quoted) ++ "]"

end Promptbook.Text
