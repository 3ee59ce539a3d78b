import Promptbook.Expression.Lexer
import Promptbook.Expression.Rules
import Promptbook.Expression.Template

/-!
# Reading expressions

A text that is no expression is read a second time, with the rules that explain what is wrong; if
none of them does, the general wording is used.  A fault in the tokens goes before one in their
order, wherever it stands, and so may a bracket that stays open in an earlier line.
-/

namespace Promptbook.Expression

/-- Why a text is no expression. -/
inductive Refusal where
  | wording (text : String)
  | tooDeep
  deriving DecidableEq, Repr

/-- How an expression is read: as a text of its own, or as a field of a template. -/
inductive Place where
  | alone
  | inTemplate
  deriving DecidableEq, Repr

namespace Place

/-- The rule that a text is read by. -/
def rule : Place → Rule
  | alone => .text
  | inTemplate => .field

/-- The wording of a fault at a place. -/
def word : Place → String → String
  | alone, wording => wording
  | inTemplate, wording => "f-string: " ++ wording

end Place

/-- The fault that tokens end with, and the brackets that are open there. -/
def lastFault? (tokens : Array Token) : Option (TokenFault × List Bracket) :=
  match tokens.back? with
  | some { lexeme := .fault f, opened, .. } => some (f, opened)
  | _ => none

/-- A wording, unless the tokens end with a fault that goes before it: one with words of its own, or
one in a bracket that has been opened in a line before the last token looked at. -/
def settled (tokens : Array Token) (place : Place) (last : Token) (wording : String) : String :=
  match lastFault? tokens with
  | some (.worded wording, _) => wording
  | some (_, b :: _) => if b.line < last.line then place.word b.unclosed else wording
  | _ => wording

/-- Why tokens are no expression, given the last token looked at and a fault. -/
def Fault.refusal (tokens : Array Token) (place : Place) (last : Token) : Fault → Refusal
  | tooDeep => .tooDeep
  | token (.worded words) _ => .wording words
  | token f opened => .wording (place.word (f.message opened))
  | wording text => .wording (go (place.word text))
  | inner text => .wording (go text)
where
  /-- Nothing is left to be looked at where the end of the text has been. -/
  go (words : String) : String :=
    if last.atEnd then words else settled tokens place last words

/-- What is told about the tokens that have not been looked at. -/
def remainingCautions (tokens : Array Token) (fetched : Nat) : List Caution :=
  (tokens.toList.drop fetched).filterMap Token.caution

/-- What is told about a text, and the expression that it is or why it is none. -/
structure Result where
  cautions : List Caution
  outcome : Except Refusal Tree

namespace Progress

/-- The last token looked at. -/
def last (p : Progress Rule) (tokens : Array Token) : Token := tokenAt tokens (p.fetched - 1)

/-- What is told about a text when the rest of its tokens is looked at. -/
def allCautions (p : Progress Rule) (tokens : Array Token) : List Caution :=
  p.cautions ++ remainingCautions tokens p.fetched

/-- The result of a fault. -/
def refuse (p : Progress Rule) (tokens : Array Token) (place : Place) (f : Fault) : Result :=
  ⟨if f = .tooDeep then p.cautions else p.allCautions tokens,
    .error (f.refusal tokens place (p.last tokens))⟩

/-- The result of tokens of which nothing tells what is wrong with them, given the last token that
the first reading has looked at. -/
def refusePlainly (p : Progress Rule) (tokens : Array Token) (place : Place) (first : Token) :
    Result :=
  match first.lexeme with
  | .indent => ⟨p.cautions, .error (.wording (place.word "unexpected indent"))⟩
  | .dedent => ⟨p.cautions, .error (.wording (place.word "unexpected unindent"))⟩
  | _ =>
    ⟨p.allCautions tokens,
      .error (.wording (settled tokens place (p.last tokens) (place.word Rule.outOfOrder)))⟩

/-- What has been read, without the results that were kept. -/
def forget (p : Progress Rule) : Progress Rule :=
  { p with results := p.results.map fun _ => [] }

end Progress

/-- Reads tokens, given how strings are joined. -/
def readTokens (join : Extent → List Tree → Built) (place : Place) (tokens : Array Token) :
    Result :=
  let g := Rule.grammar join
  match g.read tokens place.rule false {} with
  | (.ok (some (t :: _, _)), p) => ⟨p.cautions, .ok t⟩
  | (.ok _, p) =>
    match g.read tokens place.rule true p.forget with
    | (.error f, q) => q.refuse tokens place f
    | (.ok _, q) => q.refusePlainly tokens place (p.last tokens)
  | (.error f, p) => p.refuse tokens place f

/-- What a refused expression is to the text around it. -/
def Refusal.fault : Refusal → Fault
  | wording text => .inner text
  | tooDeep => .tooDeep

/-- Reads an expression, given a bound on how deep templates stand in each other and which names
characters have. -/
def readWithin (isName : List Char → Bool) : Nat → Place → Nat → List Char → Result
  | 0, _, _, _ => ⟨[], .error .tooDeep⟩
  | n + 1, place, line, cs =>
    let read (line : Nat) (cs : List Char) : Template.Check Unit := do
      let r := readWithin isName n .inTemplate line cs
      modify (· ++ r.cautions)
      match r.outcome with
      | .ok _ => return ()
      | .error f => throw f.fault
    readTokens (Template.Reading.join ⟨read, isName⟩) place (tokens line cs)

/-- Reads an expression. -/
def read (isName : List Char → Bool) (cs : List Char) : Result :=
  readWithin isName (cs.length + 1) .alone 1 cs

end Promptbook.Expression
