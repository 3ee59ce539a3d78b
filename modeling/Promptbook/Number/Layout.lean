import Promptbook.Number.Shortest
import Promptbook.Text.Digit

/-!
# Number text

How a double is written: the digits of its shortest decimal, laid out by one of two records, one
for messages and one for documents.
-/

namespace Promptbook

/-- The decisions in laying out the digits of a number. -/
structure Layout where
  /-- The least power of ten of the first digit that is still written plainly. -/
  least : Int
  /-- The least power of ten of the first digit that is no longer written plainly. -/
  limit : Int
  /-- How many digits an exponent has at least. -/
  exponentWidth : Nat
  infinity : String
  notANumber : String
  deriving DecidableEq, Repr

namespace Layout

/-- Numbers in messages. -/
def message : Layout := ⟨-4, 16, 2, "inf", "nan"⟩

/-- Numbers in documents, where a number that is not finite is written as nothing. -/
def document : Layout := ⟨-5, 16, 1, "null", "null"⟩

/-- Digits in plain notation, the first standing for the given power of ten; a whole number keeps
one zero after the point. -/
def plain (digits : List Char) (power : Int) : List Char :=
  if power < 0 then
    '0' :: '.' :: (List.replicate (-power - 1).toNat '0' ++ digits)
  else
    let n := power.toNat + 1
    let whole := digits.take n ++ List.replicate (n - digits.length) '0'
    let rest := digits.drop n
    whole ++ '.' :: (if rest.isEmpty then ['0'] else rest)

/-- Digits in scientific notation, the first standing for the given power of ten. -/
def scientific (width : Nat) (digits : List Char) (power : Int) : List Char :=
  let exponent := Nat.toDigits 10 power.natAbs
  digits.take 1 ++ (if digits.length ≤ 1 then [] else '.' :: digits.drop 1) ++
    'e' :: (if power < 0 then '-' else '+') ::
    (List.replicate (width - exponent.length) '0' ++ exponent)

/-- The text of a decimal. -/
def decimal (l : Layout) (d : Shortest.Decimal) : List Char :=
  let digits := Nat.toDigits 10 d.significand
  let power := d.exponent + digits.length - 1
  if l.least ≤ power ∧ power < l.limit then plain digits power
  else scientific l.exponentWidth digits power

/-- The text of a double. -/
def render (l : Layout) (x : Float) : String :=
  match Double.parts x with
  | .ok p => String.ofList ((if p.negative then ['-'] else []) ++ l.decimal (Shortest.ofParts p))
  | .error .infinite => if x < 0.0 then "-" ++ l.infinity else l.infinity
  | .error .notANumber => l.notANumber

/-- The text of a finite double with one digit after the point, a tie to the even. -/
def tenths (x : Float) : String :=
  match Double.parts x with
  | .ok p =>
    let n := Double.roundDiv (10 * p.fraction.1) p.fraction.2
    String.ofList ((if p.negative then ['-'] else []) ++ Nat.toDigits 10 (n / 10) ++
      '.' :: Nat.toDigits 10 (n % 10))
  | .error .infinite => if x < 0.0 then "-inf" else "inf"
  | .error .notANumber => "nan"

end Layout

end Promptbook
