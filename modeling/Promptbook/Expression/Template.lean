import Promptbook.Expression.Escape
import Promptbook.Expression.Pattern

/-!
# Strings and templates

Strings that follow each other are one.  A template has fields in braces: an expression, after
which a sign for its form and a format may stand; a format may have fields once more.  Doubled
braces stand for themselves.
-/

namespace Promptbook.Expression.Template

/-- A check of strings: what is told about the expressions in them, and the first fault. -/
abbrev Check := ExceptT Fault (StateM (List Caution))

/-- A fault in the strings themselves. -/
def refuse {α : Type} (wording : String) : Check α := throw (.wording wording)

/-- A result or a wording. -/
def worded {α : Type} : Except String α → Check α
  | .ok a => pure a
  | .error wording => refuse wording

/-- How deep fields may stand in formats. -/
def nestingLimit : Nat := 2

/-- A stretch of a template up to a brace: the stretch, whether it ends with a doubled brace, and
what follows.  Braces are doubled outside formats only.  Backslashes keep the character behind them
from being one, other than a brace; a name of a character may stand in braces. -/
def stretch (raw outside : Bool) : Nat → List Char → List Char →
    Except String (List Char × Bool × List Char)
  | _, before, [] => .ok (before.reverse, false, [])
  | skip + 1, before, c :: cs => stretch raw outside skip (c :: before) cs
  | 0, before, c :: cs =>
    if c = '\x7b' ∨ c = '\x7d' then
      if outside ∧ cs.head? = some c then .ok ((c :: before).reverse, true, cs.tail)
      else if outside ∧ c = '\x7d' then .error "f-string: single '\x7d' is not allowed"
      else .ok (before.reverse, false, c :: cs)
    else if c = '\\' ∧ !raw then
      match cs with
      | 'N' :: '\x7b' :: name =>
        stretch raw outside (2 + (name.takeWhile (· ≠ '\x7d')).length + 1) (c :: before) cs
      | 'N' :: _ => stretch raw outside 2 (c :: before) cs
      | d :: _ =>
        stretch raw outside (if d = '\x7b' ∨ d = '\x7d' then 0 else 1) (c :: before) cs
      | [] => stretch raw outside 0 (c :: before) cs
    else stretch raw outside 0 (c :: before) cs

/-- The quote of a string in a field, and whether it stands three times. -/
structure Quote where
  sign : Char
  long : Bool
  deriving DecidableEq, Repr

/-- The text of a field up to the character that ends it, and what follows from that on.  Brackets
have to match, and a comparison does not end the text; of the characters to come some belong to
what has been read. -/
def fieldText : Nat → Option Quote → List Char → List Char → List Char →
    Except String (List Char × List Char)
  | _, quote, opened, _, [] =>
    .error (if quote.isSome then "f-string: unterminated string"
      else match opened with
        | o :: _ => "f-string: unmatched '" ++ o.toString ++ "'"
        | [] => "f-string: expecting '\x7d'")
  | skip + 1, quote, opened, before, c :: cs => fieldText skip quote opened (c :: before) cs
  | 0, quote, opened, before, c :: cs =>
    let go := fun (skip : Nat) (quote : Option Quote) (opened : List Char) =>
      fieldText skip quote opened (c :: before) cs
    let long := cs.take 2 = [c, c]
    if c = '\\' then .error "f-string expression part cannot include a backslash"
    else match quote with
      | some q =>
        if c ≠ q.sign then go 0 quote opened
        else if q.long then if long then go 2 none opened else go 0 quote opened
        else go 0 none opened
      | none =>
        if c = '\'' ∨ c = '"' then go (if long then 2 else 0) (some ⟨c, long⟩) opened
        else if c = '[' ∨ c = '\x7b' ∨ c = '(' then
          if 200 ≤ opened.length then .error "f-string: too many nested parenthesis"
          else go 0 none (c :: opened)
        else if c = '#' then .error "f-string expression part cannot include '#'"
        else if opened.isEmpty ∧ c ∈ ['!', ':', '\x7d', '=', '>', '<'] then
          if c ∈ ['!', '=', '<', '>'] ∧ cs.head? = some '=' then go 1 none opened
          else if c = '>' ∨ c = '<' then go 0 none opened
          else .ok (before.reverse, c :: cs)
        else if c = ']' ∨ c = '\x7d' ∨ c = ')' then match opened with
          | [] => .error ("f-string: unmatched '" ++ c.toString ++ "'")
          | o :: opened =>
            if (o = '(' ∧ c = ')') ∨ (o = '[' ∧ c = ']') ∨ (o = '\x7b' ∧ c = '\x7d') then
              go 0 none opened
            else .error ("f-string: closing parenthesis '" ++ c.toString ++
              "' does not match opening parenthesis '" ++ o.toString ++ "'")
        else go 0 none opened

/-- Whether the character is white space in the text of a field. -/
def isFieldBlank (c : Char) : Bool := c ∈ [' ', '\t', '\n', '\x0c']

/-- Whether the character is white space behind the equals sign of a field. -/
def isWide (c : Char) : Bool := isFieldBlank c || c ∈ ['\r', '\x0b']

/-- What follows an equals sign behind the text of a field. -/
def afterEquals (cs : List Char) : Check (List Char) :=
  match cs with
  | '=' :: cs =>
    match cs.dropWhile isWide with
    | [] => refuse "f-string: expecting '\x7d'"
    | rest => return rest
  | _ => return cs

/-- What follows the sign for the form of a field. -/
def afterForm (cs : List Char) : Check (List Char) :=
  match cs with
  | ['!'] => refuse "f-string: expecting '\x7d'"
  | '!' :: form :: rest =>
    if form ∈ ['s', 'r', 'a'] then return rest
    else refuse "f-string: invalid conversion character: expected 's', 'r', or 'a'"
  | _ => return cs

/-- How strings are checked: how an expression on a line is read, and which names characters
have. -/
structure Reading where
  read : Nat → List Char → Check Unit
  isName : List Char → Bool

namespace Reading

/-- Checks the text of a field, which ends before a character. -/
def checkField (r : Reading) (line : Nat) (text : List Char) (ending : Option Char) : Check Unit :=
  if text.all isFieldBlank then
    match ending with
    | some '\x7d' | none => refuse "f-string: empty expression not allowed"
    | some c => refuse ("f-string: expression required before '" ++ c.toString ++ "'")
  else r.read line ('(' :: text ++ [')'])

mutual

/-- Checks a template or a format, given a bound; what follows is left over.  The last line of the
template has a number. -/
def checkPieces (r : Reading) (raw : Bool) (last : Nat) :
    Nat → Nat → List Char → Check (List Char)
  | 0, _, cs => return cs
  | n + 1, level, cs => do
    let (text, doubled, rest) ← worded (stretch raw (level = 0) 0 [] cs)
    if !raw then worded (Escape.checkText r.isName text)
    if doubled then checkPieces r raw last n level rest
    else match rest with
      | '\x7b' :: field => do
        let rest ← checkReplacement r raw last n level field
        checkPieces r raw last n level rest
      | _ => return rest

/-- Checks a field behind its brace. -/
def checkReplacement (r : Reading) (raw : Bool) (last : Nat) :
    Nat → Nat → List Char → Check (List Char)
  | 0, _, cs => return cs
  | n + 1, level, cs => do
    if nestingLimit ≤ level then refuse "f-string: expressions nested too deeply"
    let (text, rest) ← worded (fieldText 0 none [] [] cs)
    r.checkField (last - cs.count '\n') text rest.head?
    let rest ← afterForm (← afterEquals rest)
    let rest ← match rest with
      | [':'] => refuse "f-string: expecting '\x7d'"
      | ':' :: format => checkPieces r raw last n (level + 1) format
      | rest => pure rest
    match rest with
    | '\x7d' :: rest => return rest
    | _ => refuse "f-string: expecting '\x7d'"

end

/-- Checks the escapes of a string without fields. -/
def checkPlain (r : Reading) (q : Quotation) : Check Unit :=
  if q.bytes then
    if q.body.any (0x80 ≤ ·.toNat) then
      refuse "bytes can only contain ASCII literal characters"
    else if q.raw then return () else worded (Escape.checkBytes 0 q.body)
  else if q.raw then return () else worded (Escape.checkText r.isName q.body)

/-- Checks the fields of a template on a line. -/
def checkFields (r : Reading) (line : Nat) (q : Quotation) : Check Unit := do
  let _ ← r.checkPieces q.raw (line + q.body.count '\n') (2 * q.body.length + 2) 0 q.body

/-- Checks strings that follow each other; all or none of them are bytes. -/
def checkAll (r : Reading) : Option Bool → List Tree → Check Unit
  | bytes, .node (.quotation q) line _ :: ts => do
    if !q.template then r.checkPlain q
    if bytes.any (· ≠ q.bytes) then refuse "cannot mix bytes and nonbytes literals"
    if q.template then r.checkFields line q
    checkAll r (some q.bytes) ts
  | _, _ => return ()

/-- What strings that follow each other are. -/
def joined : List Tree → Kind
  | ts@(.node (.quotation q) _ _ :: _) =>
    if ts.any fun t => match t.kind with
      | .quotation q => q.template
      | _ => false
    then .template else .constant (if q.bytes then .bytes else .text)
  | _ => .constant .text

/-- Joins strings that follow each other. -/
def join (r : Reading) (e : Extent) (parts : List Tree) : Built :=
  let (result, cautions) := (r.checkAll none parts).run.run []
  { cautions := cautions
    result := result.map fun _ => some [.node (joined parts) e.line []] }

end Reading

end Promptbook.Expression.Template
