import Promptbook.Command.Style
import Promptbook.Expression.Literal
import Promptbook.Text.Cells
import Promptbook.Text.CharacterName
import Promptbook.Text.Quoted
import Promptbook.Text.Symbol

/-!
# Marked-up messages

Messages are shown with marks for bold and colored text in brackets.  Here the marks are taken
off again, since only plain text is shown: tags have to be closed in order to count, a backslash
keeps a bracket from being a tag, and a name between colons may stand for a symbol.  A tag whose
name starts with an at sign is an action, and its parameters have to be a literal.
-/

namespace Promptbook.Command

/-- What is wrong with the marks of a message. -/
inductive MarkupFault where
  /-- A closing tag that closes nothing. -/
  | unopened (tag : String) (position : Nat)
  /-- A literal that is none, in the parameters of an action, and what is told about it besides. -/
  | action (literal parameters : String) (fault : Expression.LiteralFault)
    (cautions : List Expression.Caution)
  | style (fault : StyleFault)
  deriving DecidableEq, Repr

/-- The wording of what is wrong with the marks of a message. -/
def MarkupFault.message : MarkupFault → String
  | .unopened tag position =>
    "closing tag '" ++ tag ++ "' at position " ++ Text.decimal position ++
      if tag = "[/]" then " has nothing to close" else " doesn't match any open tag"
  | .action literal parameters fault _ =>
    "error parsing " ++
      (match fault with
        | .noExpression _ => Text.quoted literal ++ " in " ++ Text.quoted parameters
        | _ => Text.quoted parameters) ++ "; " ++ fault.message
  | .style fault => fault.message

/-- What is told besides what is wrong with the marks of a message. -/
def MarkupFault.cautions : MarkupFault → List Expression.Caution
  | .action _ _ _ cautions => cautions
  | _ => []

namespace Markup

/-- Whether a tag may start with the character. -/
def startsTag (c : Char) : Bool := ('a' ≤ c && c ≤ 'z') || c == '#' || c == '/' || c == '@'

/-- The content of a tag whose bracket has just been opened. -/
def content? : List Char → Option (List Char)
  | [] => none
  | c :: cs =>
    let rest := cs.takeWhile fun d => d ≠ ']' && d ≠ '['
    if startsTag c && (cs.drop rest.length).head? == some ']' then some (c :: rest) else none

/-- The number of backslashes before a tag and the content of the tag. -/
def tag? (cs : List Char) : Option (Nat × List Char) :=
  let backslashes := (cs.takeWhile (· = '\\')).length
  match cs.drop backslashes with
  | '[' :: rest => (content? rest).map fun content => (backslashes, content)
  | _ => none

/-- A stretch of text, or a tag with its position. -/
inductive Piece where
  | plain (cs : List Char)
  | tag (position : Nat) (content : List Char)
  deriving DecidableEq, Repr

/-- What stands for a tag behind some backslashes: pairs of backslashes stand for one each, and a
single one left over keeps the tag from being one. -/
def Piece.ofTag (position backslashes : Nat) (content : List Char) : List Piece :=
  let half := backslashes / 2
  let escapes : List Piece := if half = 0 then [] else [plain (List.replicate half '\\')]
  escapes ++
    if backslashes % 2 = 1 then [plain ('[' :: content ++ [']'])]
    else [tag (position + 2 * half) content]

/-- A stretch of text, in front of the pieces, where it is not empty. -/
def Piece.consPlain (cs : List Char) (pieces : List Piece) : List Piece :=
  if cs.isEmpty then pieces else plain cs.reverse :: pieces

/-- The pieces of a text from a position on.  Of the characters to come some have been read as
part of a tag already; those before are kept in reverse until a tag ends them. -/
def pieces : Nat → Nat → List Char → List Char → List Piece
  | _, _, before, [] => Piece.consPlain before []
  | i, skip + 1, before, _ :: cs => pieces (i + 1) skip before cs
  | i, 0, before, c :: cs =>
    match tag? (c :: cs) with
    | none => pieces (i + 1) 0 (c :: before) cs
    | some (backslashes, content) =>
      Piece.consPlain before
        (Piece.ofTag i backslashes content ++
          pieces (i + 1) (backslashes + content.length + 1) [] cs)

/-- A stretch of text in which a backslash before a bracket is left out. -/
def unescape : List Char → List Char
  | '\\' :: '[' :: cs => '[' :: unescape cs
  | c :: cs => c :: unescape cs
  | [] => []

/-- The variants of a symbol that a name may ask for, with the mark of each. -/
def variants : List (List Char × Char) := [
  ("-text".toList, '\ufe0e'), ("-emoji".toList, '\ufe0f')]

/-- The symbol that a name stands for, with the mark of a variant where the name ends with one. -/
def symbol? (name : List Char) : Option (List Char) :=
  match variants.find? fun v => v.1.isSuffixOf name with
  | some (ending, mark) =>
    (Text.symbol? (name.take (name.length - ending.length))).map (· ++ [mark])
  | none => Text.symbol? name

/-- A stretch of text with symbols for names between colons.  After an opening colon the name is
collected in reverse; a blank ends the search for its end. -/
def symbolize : Option (List Char) → List Char → List Char
  | none, [] => []
  | some name, [] => ':' :: name.reverse
  | none, c :: cs => if c = ':' then symbolize (some []) cs else c :: symbolize none cs
  | some name, c :: cs =>
    if c = ':' then
      (symbol? name.reverse).getD (':' :: name.reverse ++ [':']) ++ symbolize none cs
    else if Text.isGap c then ':' :: name.reverse ++ c :: symbolize none cs
    else symbolize (some (c :: name)) cs

/-- Whether the character is dropped from shown text. -/
def isDropped (c : Char) : Bool := c.toNat ∈ [7, 8, 11, 12, 13]

/-- A stretch of text as it is shown. -/
def shown (cs : List Char) : List Char :=
  (symbolize none (unescape cs)).filter fun c => !isDropped c

/-- Whether the character may stand in the name of an action. -/
def isActionChar (c : Char) : Bool := c == '.' || Text.isWordChar c

/-- The literal in the parameters of an action: that in brackets behind a name, which may be left
out, or all of them. -/
def actionLiteral (cs : List Char) : List Char :=
  match cs.dropWhile isActionChar with
  | [] => ['(', ')']
  | '(' :: rest =>
    if rest.getLast? = some ')' ∧ '\n' ∉ rest then '(' :: rest else cs
  | _ => cs

/-- Checks the parameters of an action. -/
def checkAction (parameters : List Char) : Except MarkupFault Unit :=
  let cs := actionLiteral (Text.trim Text.isGap parameters)
  let check := Expression.checkLiteral Text.isCharacterName cs
  check.fault.elim (.ok ()) fun fault =>
    .error (.action (String.ofList cs) (String.ofList parameters) fault check.cautions)

/-- The normal form of the style that a tag names. -/
def style (name : List Char) : Except MarkupFault String :=
  (Style.normalForm name).mapError .style

/-- A tag that is open: where it stands in the shown text, its style and its parameters. -/
structure OpenTag where
  start : Nat
  style : String
  parameters : Option (List Char)
  deriving DecidableEq, Repr

/-- A stretch of the shown text under a style, which is given in words. -/
structure Stretch where
  start : Nat
  finish : Nat
  style : List Char
  deriving DecidableEq, Repr

namespace OpenTag

/-- Whether a tag is an action. -/
def isAction (t : OpenTag) : Bool := t.style.toList.head? = some '@'

/-- What a tag leaves in the text up to a position: its parameters are further words of its
style. -/
def stretch (t : OpenTag) (finish : Nat) : Stretch :=
  ⟨t.start, finish, t.style.toList ++ t.parameters.elim [] (' ' :: ·)⟩

/-- What a tag leaves that is closed at a position.  An action leaves no style; its parameters
have to be a literal. -/
def close (t : OpenTag) (finish : Nat) : Except MarkupFault (List Stretch) :=
  if t.isAction then match t.parameters with
    | some (c :: cs) => (checkAction (c :: cs)).map fun _ => []
    | _ => .ok []
  else .ok [t.stretch finish]

end OpenTag

/-- Whether a stretch holds a part of a line between two positions. -/
def Stretch.meets (first last : Nat) (s : Stretch) : Bool :=
  max first s.start < min last s.finish

/-- Checks the styles of the stretches in the lines of a text from a position on. -/
def checkStyles (stretches : List Stretch) : Nat → List (List Char) → Except MarkupFault Unit
  | _, [] => .ok ()
  | first, line :: lines => do
    let last := first + line.length
    (stretches.filter (·.meets first last)).forM fun s => (Style.check s.style).mapError .style
    checkStyles stretches (last + 1) lines

/-- The stretches in the order of their starts, of those with one start the last one first. -/
def arranged (stretches : List Stretch) : List Stretch :=
  stretches.reverse.mergeSort fun s t => s.start ≤ t.start

/-- What has been read of a text: the shown characters, the stretches under a style, the last
first, and the tags that are open, the innermost first. -/
structure Reading where
  shown : List Char := []
  stretches : List Stretch := []
  opened : List OpenTag := []

namespace Reading

/-- How many characters are shown. -/
def position (r : Reading) : Nat := r.shown.length

/-- Closes a tag. -/
def close (r : Reading) (t : OpenTag) : Except MarkupFault Reading := do
  let left ← t.close r.position
  return { r with stretches := left ++ r.stretches, opened := r.opened.erase t }

/-- Reads one piece. -/
def step (r : Reading) : Piece → Except MarkupFault Reading
  | .plain cs => .ok { r with shown := r.shown ++ Markup.shown cs }
  | .tag position content =>
    match content.span (· ≠ '=') with
    | ('/' :: name, _) =>
      if (Text.trim Text.isGap name).isEmpty then
        r.opened.head?.elim (.error (.unopened "[/]" position)) r.close
      else do
        let style ← style name
        (r.opened.find? fun t => t.style = style).elim
          (.error (.unopened (String.ofList ('[' :: content ++ [']'])) position)) r.close
    | (name, parameters) => do
      let style ← style name
      return { r with opened := ⟨r.position, style, parameters.tail?⟩ :: r.opened }

/-- All stretches under a style, those of the tags left open included. -/
def allStretches (r : Reading) : List Stretch :=
  arranged (r.stretches.reverse ++ r.opened.map (·.stretch r.position))

end Reading

end Markup

/-- The plain text of a message. -/
def plainMessage (message : String) : Except MarkupFault String := do
  let r ← (Markup.pieces 0 0 [] message.toList).foldlM Markup.Reading.step {}
  Markup.checkStyles r.allStretches 0 (Text.cut '\n' r.shown)
  return String.ofList r.shown

/-- The stretches of a line between tabulators, each but the last with blanks up to the next column
of eight, at least one, counted from a column. -/
def padColumns : Nat → List (List Char) → List Char
  | _, [] => []
  | _, [part] => part
  | column, part :: parts =>
    let reached := column + Text.cells (part ++ [' '])
    let padded := (reached + 7) / 8 * 8
    part ++ ' ' :: List.replicate (padded - reached) ' ' ++ padColumns padded parts

/-- A line with blanks in place of tabulators. -/
def expandTabs (line : List Char) : List Char := padColumns 0 (Text.cut '\t' line)

/-- A message as it appears: without marks and tabulators. -/
def shownMessage (message : String) : Except MarkupFault String :=
  (plainMessage message).map fun text =>
    "\n".intercalate ((Text.split '\n' text).map fun line =>
      String.ofList (expandTabs line.toList))

end Promptbook.Command
