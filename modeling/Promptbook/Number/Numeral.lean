import Promptbook.Number.Double
import Promptbook.Text.Blank
import Promptbook.Text.Digit

/-!
# Reading numbers

The numeral grammar: an optional sign, then `inf`, `infinity` or `nan` in any case, or ASCII
digits with an optional point and an optional exponent.  Settings and documents use it with
different digits and separators.
-/

namespace Promptbook.Numeral

/-- A sign at the start of a numeral: whether it is a minus, and the rest. -/
def sign : List Char → Bool × List Char
  | '-' :: cs => (true, cs)
  | '+' :: cs => (false, cs)
  | cs => (false, cs)

/-- The digits after the exponent mark with their sign, up to the end. -/
def exponent? (cs : List Char) : Option Int :=
  let (negative, ds) := sign cs
  if ds.isEmpty || !ds.all Char.isDigit then none
  else some (if negative then -(Text.natOfDigits ds : Int) else Text.natOfDigits ds)

/-- An unsigned decimal, as a whole number and a power of ten. -/
def decimal? (cs : List Char) : Option (Nat × Int) :=
  let (whole, r) := cs.span Char.isDigit
  let (places, r) := match r with
    | '.' :: r => r.span Char.isDigit
    | r => ([], r)
  if whole.isEmpty && places.isEmpty then none
  else
    let mantissa := Text.natOfDigits (whole ++ places)
    match r with
    | [] => some (mantissa, -places.length)
    | e :: r =>
      if e = 'e' ∨ e = 'E' then (exponent? r).map fun n => (mantissa, n - places.length) else none

/-- The double that a numeral stands for. -/
def read? (cs : List Char) : Option Float :=
  let (negative, r) := sign cs
  let word := String.ofList (Text.asciiLower r)
  if word = "inf" ∨ word = "infinity" then
    some (if negative then -Double.infinity else Double.infinity)
  else if word = "nan" then some Double.notANumber
  else (decimal? r).map fun (mantissa, exponent) => Double.ofDecimal negative mantissa exponent

/-- Whether separators stand singly inside the text: not at an end and not twice in a row. -/
def separated : List Char → Bool
  | [] => true
  | '_' :: _ => false
  | _ :: cs => inside cs
where
  /-- The same after a character that is no separator. -/
  inside : List Char → Bool
    | [] => true
    | '_' :: '_' :: _ => false
    | ['_'] => false
    | _ :: cs => inside cs

/-- A text without separators, where it has some and they stand singly. -/
def unseparated? (cs : List Char) : Option (List Char) :=
  if '_' ∈ cs ∧ separated cs then some (cs.filter (· ≠ '_')) else none

/-- The double that a text in a document stands for: a numeral between blanks, or one whose
characters are separated. -/
def ofText? (s : String) : Option Float :=
  match read? (Text.trim Text.isBlank s.toList) with
  | some x => some x
  | none => (unseparated? s.toList).bind read?

/-- Whether every separator stands between two digits. -/
def betweenDigits : List Char → Bool
  | [] => true
  | '_' :: _ => false
  | c :: '_' :: d :: cs => c.isDigit && d.isDigit && betweenDigits (d :: cs)
  | _ :: cs => betweenDigits cs

/-- The characters of a setting: blanks around it dropped, digits of any script as ASCII digits, and
separators dropped where each stands between two digits. -/
def normalized? (s : String) : Option (List Char) :=
  let cs := (Text.trim Text.isBlank s.toList).map Text.asciiDigit
  if betweenDigits cs then some (cs.filter (· ≠ '_')) else none

/-- The double that a setting stands for. -/
def ofSetting? (s : String) : Option Float := (normalized? s).bind read?

/-- The rest of a text after zeros and separators in front of another digit or a minus sign; they
start with a zero.  The last of them stays before a point and at the end. -/
def dropZeros? : List Char → Option (List Char)
  | '0' :: cs => zeros '0' cs
  | c :: cs => if c.isDigit ∨ c = '-' then some (c :: cs) else none
  | [] => none
where
  /-- The same after one of the zeros and separators. -/
  zeros : Char → List Char → Option (List Char)
    | last, [] => some [last]
    | last, c :: cs =>
      if c = '0' ∨ c = '_' then zeros c cs
      else if c.isDigit ∨ c = '-' then some (c :: cs)
      else if c = '.' then some (last :: c :: cs)
      else none

/-- Why a text stands for no whole number. -/
inductive IntFault where
  | notWhole
  | tooLong
  deriving DecidableEq, Repr

/-- How many digits a whole number may have. -/
def digitLimit : Nat := 4300

/-- The wording of a whole number with too many digits. -/
def tooManyDigits (count : Nat) : String :=
  "Exceeds the limit (" ++ Text.decimal digitLimit ++
    " digits) for integer string conversion: value has " ++ Text.decimal count ++
    " digits; use sys.set_int_max_str_digits() to increase the limit"

/-- The whole number that the plain form gives: a minus sign or none, and digits of which the first
is a zero only where it is the only one.  Too many digits are a fault of their own, whatever
follows them. -/
def plainInt (cs : List Char) : Except IntFault Int :=
  let (negative, r) := match cs with
    | '-' :: r => (true, r)
    | r => (false, r)
  let (ds, rest) := r.span Char.isDigit
  if ds.head? = some '0' ∧ ds ≠ ['0'] then .error .notWhole
  else if digitLimit < ds.length then .error .tooLong
  else if ds = [] ∨ rest ≠ [] then .error .notWhole
  else .ok (if negative then -(Text.natOfDigits ds : Int) else Text.natOfDigits ds)

/-- The text before the point, where only zeros follow it, at least one of them. -/
def withoutPlaces (cs : List Char) : List Char :=
  match cs.span (· ≠ '.') with
  | (whole, '.' :: places) => if places ≠ [] ∧ places.all (· = '0') then whole else cs
  | _ => cs

/-- The plain form that a text comes down to: a plus sign, zeros in front, a fraction of zeros and
separators are overlooked. -/
def plainForm? (cs : List Char) : Option (List Char) := do
  let (minus, cs) ← match cs with
    | '+' :: '-' :: _ => none
    | '+' :: cs => some ([], cs)
    | '-' :: cs => some (['-'], cs)
    | cs => some ([], cs)
  let cs := withoutPlaces (← dropZeros? cs)
  return minus ++ (unseparated? cs).getD cs

/-- The whole number that a text between blanks stands for, in the plain form or in one that comes
down to it.  Only the text as it stands can be too long. -/
def intOfText (s : String) : Except IntFault Int :=
  let cs := Text.trim Text.isBlank s.toList
  match plainInt cs with
  | .ok n => .ok n
  | .error .tooLong => .error .tooLong
  | .error .notWhole =>
    ((plainForm? cs).bind fun cs => (plainInt cs).toOption).elim (.error .notWhole) .ok

end Promptbook.Numeral
