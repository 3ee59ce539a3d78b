import Promptbook.Text.Digit

/-!
# Escapes in strings

A backslash starts an escape.  In a text it may be followed by the code or by the name of a
character, and in bytes by the code of a byte.  A text is read in a form in which characters beyond
ASCII are escapes themselves; messages give places in that form.
-/

namespace Promptbook.Expression.Escape

/-- A text in ASCII: other characters are escapes, and so is a backslash in front of one of them or
at the end. -/
def ascii : List Char → List Char
  | [] => []
  | '\\' :: c :: cs =>
    if c.toNat < 0x80 then '\\' :: c :: ascii cs
    else "\\u005c\\U".toList ++ Text.hex 8 c.toNat ++ ascii cs
  | ['\\'] => "\\u005c".toList
  | c :: cs =>
    if c.toNat < 0x80 then c :: ascii cs else '\\' :: 'U' :: Text.hex 8 c.toNat ++ ascii cs

/-- What is wrong with an escape, and how many characters behind its letter are part of it. -/
structure Wrong where
  length : Nat
  reason : String
  deriving DecidableEq, Repr

/-- The code of a character in so many digits; else how many digits there are. -/
def code (count : Nat) (cs : List Char) : Except Nat Nat :=
  let ds := (cs.take count).takeWhile fun c => (Text.hexValue? c).isSome
  if ds.length = count then .ok ((ds.filterMap Text.hexValue?).foldl (fun n d => 16 * n + d) 0)
  else .error ds.length

/-- Reads the code of a character. -/
def readCode (count : Nat) (reason : String) (cs : List Char) : Except Wrong (List Char) :=
  match code count cs with
  | .error length => .error ⟨length, reason⟩
  | .ok n =>
    if n ≤ 0x10ffff then .ok (cs.drop count) else .error ⟨count, "illegal Unicode character"⟩

/-- Reads the name of a character in braces, given which names there are. -/
def readName (isName : List Char → Bool) (cs : List Char) : Except Wrong (List Char) :=
  let malformed := "malformed \\N character escape"
  match cs with
  | '\x7b' :: cs =>
    let name := cs.takeWhile (· ≠ '\x7d')
    match cs.drop name.length with
    | [] => .error ⟨1 + name.length, malformed⟩
    | _ :: rest =>
      if name.isEmpty then .error ⟨1, malformed⟩
      else if isName name then .ok rest
      else .error ⟨name.length + 2, "unknown Unicode character name"⟩
  | _ => .error ⟨0, malformed⟩

/-- Reads what follows a backslash and a letter. -/
def readEscape (isName : List Char → Bool) (c : Char) (cs : List Char) :
    Except Wrong (List Char) :=
  if c = 'x' then readCode 2 "truncated \\xXX escape" cs
  else if c = 'u' then readCode 4 "truncated \\uXXXX escape" cs
  else if c = 'U' then readCode 8 "truncated \\UXXXXXXXX escape" cs
  else if c = 'N' then readName isName cs
  else .ok cs

/-- The wording of an escape that is wrong, which starts at a place. -/
def Wrong.message (place : Nat) (w : Wrong) : String :=
  "(unicode error) 'unicodeescape' codec can't decode bytes in position " ++ Text.decimal place ++
    "-" ++ Text.decimal (place + w.length + 1 : Nat) ++ ": " ++ w.reason

/-- Checks the escapes of a text in ASCII from a place on; of the characters to come some have been
read as part of an escape. -/
def checkFrom (isName : List Char → Bool) : Nat → Nat → List Char → Except String Unit
  | _, _, [] => .ok ()
  | place, skip + 1, _ :: cs => checkFrom isName (place + 1) skip cs
  | place, 0, '\\' :: c :: cs =>
    match readEscape isName c cs with
    | .ok rest => checkFrom isName (place + 1) (1 + cs.length - rest.length) (c :: cs)
    | .error w => .error (w.message place)
  | place, 0, _ :: cs => checkFrom isName (place + 1) 0 cs

/-- Checks the escapes of a text. -/
def checkText (isName : List Char → Bool) (cs : List Char) : Except String Unit :=
  checkFrom isName 0 0 (ascii cs)

/-- Checks the escapes of bytes from a place on. -/
def checkBytes : Nat → List Char → Except String Unit
  | place, '\\' :: 'x' :: cs =>
    match code 2 cs with
    | .ok _ => checkBytes (place + 2) cs
    | .error _ => .error ("(value error) invalid \\x escape at position " ++ Text.decimal place)
  | place, '\\' :: _ :: cs => checkBytes (place + 2) cs
  | place, _ :: cs => checkBytes (place + 1) cs
  | _, [] => .ok ()

end Promptbook.Expression.Escape
