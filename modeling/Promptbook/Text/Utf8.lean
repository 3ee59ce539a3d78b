import Promptbook.Text.Digit

/-!
# UTF-8

Decoding of bytes to text, one byte at a time.  A byte sequence that is no text is refused at its
first ill-formed character, with the bytes that belong to it and the reason.
-/

namespace Promptbook.Utf8

/-- Why bytes are no text. -/
inductive Reason where
  /-- The byte starts no character. -/
  | start
  /-- A character goes on with a byte that cannot belong to it. -/
  | continuation
  /-- The bytes end within a character. -/
  | truncated
  deriving DecidableEq, Repr

/-- The wording of a reason. -/
def Reason.message : Reason → String
  | .start => "invalid start byte"
  | .continuation => "invalid continuation byte"
  | .truncated => "unexpected end of data"

/-- The first ill-formed character: where it starts, its bytes that could belong together, and
what is wrong. -/
structure Fault where
  start : Nat
  length : Nat
  byte : UInt8
  reason : Reason
  deriving DecidableEq, Repr

/-- The wording of a fault; the byte is named when it is a single one. -/
def Fault.message (f : Fault) : String :=
  let place :=
    if f.length ≤ 1 then
      "byte 0x" ++ String.ofList (Text.hex 2 f.byte.toNat) ++ " in position " ++
        Text.decimal f.start
    else
      "bytes in position " ++ Text.decimal f.start ++ "-" ++ Text.decimal (f.start + f.length - 1)
  "'utf-8' codec can't decode " ++ place ++ ": " ++ f.reason.message

/-- A character of which some bytes are still to come.  The next byte lies between `low` and
`high`. -/
structure Pending where
  start : Nat
  length : Nat
  byte : UInt8
  needed : Nat
  low : Nat
  high : Nat
  value : Nat

/-- What the first byte of a character of several bytes promises: how many bytes follow, between
which bounds the next one lies, and the leading bits of the code point. -/
def lead? (b : Nat) : Option (Nat × Nat × Nat × Nat) :=
  if b < 0xc2 then none
  else if b < 0xe0 then some (1, 0x80, 0xbf, b - 0xc0)
  else if b = 0xe0 then some (2, 0xa0, 0xbf, 0)
  else if b = 0xed then some (2, 0x80, 0x9f, 0xd)
  else if b < 0xf0 then some (2, 0x80, 0xbf, b - 0xe0)
  else if b = 0xf0 then some (3, 0x90, 0xbf, 0)
  else if b < 0xf4 then some (3, 0x80, 0xbf, b - 0xf0)
  else if b = 0xf4 then some (3, 0x80, 0x8f, 4)
  else none

/-- Decodes from a position on, with the character begun before it if there is one. -/
def decodeFrom : Nat → Option Pending → List UInt8 → Except Fault (List Char)
  | _, none, [] => .ok []
  | _, some p, [] => .error ⟨p.start, p.length, p.byte, .truncated⟩
  | i, none, b :: bs =>
    if b.toNat < 0x80 then (decodeFrom (i + 1) none bs).map (Char.ofNat b.toNat :: ·)
    else match lead? b.toNat with
      | none => .error ⟨i, 1, b, .start⟩
      | some (needed, low, high, value) =>
        decodeFrom (i + 1) (some ⟨i, 1, b, needed, low, high, value⟩) bs
  | i, some p, b :: bs =>
    if b.toNat < p.low ∨ p.high < b.toNat then .error ⟨p.start, p.length, p.byte, .continuation⟩
    else
      let value := 64 * p.value + (b.toNat - 0x80)
      if p.needed ≤ 1 then (decodeFrom (i + 1) none bs).map (Char.ofNat value :: ·)
      else
        let next : Pending := ⟨p.start, p.length + 1, p.byte, p.needed - 1, 0x80, 0xbf, value⟩
        decodeFrom (i + 1) (some next) bs

/-- The text that the bytes encode. -/
def decode (bytes : List UInt8) : Except Fault String :=
  (decodeFrom 0 none bytes).map String.ofList

end Promptbook.Utf8
