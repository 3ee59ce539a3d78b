import Promptbook.Text.Digit
import Promptbook.Text.Split

/-!
# Spellings

JSON escapes can spell one half of a surrogate pair without the other.  A spelling is a sequence of
code points that may hold such halves.  One without halves is a text, and every text has exactly
one spelling.
-/

namespace Promptbook

/-- One code point of a spelling. -/
inductive CodePoint where
  | char (c : Char)
  /-- Half of a surrogate pair that stands alone. -/
  | half (unit : Nat)
  deriving DecidableEq, Repr

/-- A sequence of code points. -/
structure Spelling where
  points : List CodePoint
  deriving DecidableEq, Repr

namespace CodePoint

/-- The character that a code point is. -/
def char? : CodePoint → Option Char
  | char c => some c
  | half _ => none

/-- Whether a code point is half of a surrogate pair. -/
def isHalf : CodePoint → Bool
  | char _ => false
  | half _ => true

/-- A code point in a message: half of a surrogate pair is shown by its code. -/
def shown : CodePoint → List Char
  | char c => [c]
  | half unit => '\\' :: 'u' :: Text.hex 4 unit

end CodePoint

namespace Spelling

/-- The spelling of a text. -/
def ofString (s : String) : Spelling := ⟨s.toList.map .char⟩

instance : Coe String Spelling := ⟨ofString⟩

instance : Append Spelling := ⟨fun s t => ⟨s.points ++ t.points⟩⟩

/-- How many code points there are. -/
def length (s : Spelling) : Nat := s.points.length

/-- Whether the spelling is that of a text. -/
def isWhole (s : Spelling) : Bool := s.points.all fun p => !p.isHalf

/-- The text that is spelled. -/
def text? (s : Spelling) : Option String :=
  if s.isWhole then some (String.ofList (s.points.filterMap CodePoint.char?)) else none

/-- The spelling in a message. -/
def shown (s : Spelling) : String := String.ofList (s.points.flatMap CodePoint.shown)

/-- The pieces between the places where a character stands. -/
def split (sep : Char) (s : Spelling) : List Spelling :=
  (Text.cut (.char sep) s.points).map Spelling.mk

theorem filterMap_char? (cs : List Char) :
    (cs.map CodePoint.char).filterMap CodePoint.char? = cs := by
  induction cs with
  | nil => rfl
  | cons c cs ih => simp [CodePoint.char?, ih]

theorem map_char_of_all (ps : List CodePoint) (h : ps.all (fun p => !p.isHalf) = true) :
    (ps.filterMap CodePoint.char?).map CodePoint.char = ps := by
  induction ps with
  | nil => rfl
  | cons p ps ih =>
    cases p with
    | char c => simp_all [CodePoint.char?, CodePoint.isHalf]
    | half u => simp [CodePoint.isHalf] at h

@[simp] theorem isWhole_ofString (s : String) : isWhole s = true := by
  simp [isWhole, ofString, CodePoint.isHalf]

@[simp] theorem text?_ofString (s : String) : text? s = some s := by
  rw [text?, isWhole_ofString, if_pos rfl, ofString, filterMap_char?, String.ofList_toList]

/-- The text of a spelling has that spelling. -/
theorem text?_eq_some_iff {s : Spelling} {t : String} : s.text? = some t ↔ s = ofString t := by
  constructor
  · intro h
    unfold text? at h
    split at h
    next hw =>
      obtain rfl := Option.some.inj h
      cases s
      simp [ofString, map_char_of_all _ hw]
    next => cases h
  · rintro rfl
    exact text?_ofString t

theorem ofString_inj {s t : String} : ofString s = ofString t ↔ s = t := by
  constructor
  · intro h
    simpa using congrArg text? h
  · rintro rfl
    rfl

end Spelling

end Promptbook
