import Promptbook.Number.Double

/-!
# The shortest decimal that reads back

Among the decimals that round to a given double, the one with the fewest digits; of several such
decimals the nearest to the double, and of two equally near ones the even.
-/

namespace Promptbook.Shortest

/-- A decimal: a whole number times a power of ten. -/
structure Decimal where
  significand : Nat
  exponent : Int
  deriving DecidableEq, Repr

/-- The number of decimal digits of a whole number above zero. -/
def digitCount (n : Nat) : Nat := (Nat.toDigits 10 n).length

/-- The power of ten just above a positive fraction: `10 ^ (k - 1) ≤ num / den < 10 ^ k`. -/
def magnitude (num den : Nat) : Int :=
  if den ≤ num then digitCount (num / den)
  else
    let k := digitCount (den / num)
    if den = num * Nat.pow 10 (k - 1) then 2 - (k : Int) else 1 - (k : Int)

/-- A positive double between its neighbours, in quarters of its last place: the value is
`4 * mantissa`, and what rounds to it lies between `low` and `4 * mantissa + 2`, the ends included
when the mantissa is even. -/
structure Interval where
  mantissa : Nat
  exponent : Int
  low : Nat

/-- The interval of a positive double.  Below a power of two the neighbours are closer. -/
def Interval.ofParts (m : Nat) (e : Int) : Interval :=
  ⟨m, e - 2, if m = Nat.pow 2 52 ∧ -1074 < e then 4 * m - 1 else 4 * m - 2⟩

/-- Whether a number of quarters, given as a fraction, rounds to the double. -/
def Interval.contains (i : Interval) (num den : Nat) : Bool :=
  if i.mantissa % 2 = 0 then i.low * den ≤ num && num ≤ (4 * i.mantissa + 2) * den
  else i.low * den < num && num < (4 * i.mantissa + 2) * den

/-- The neighbour of the double on the grid of multiples of `10 ^ k` that rounds to it, the nearer
one if both do. -/
def Interval.onGrid? (i : Interval) (k : Int) : Option Decimal :=
  let step := Nat.pow 10 k.toNat * Nat.pow 2 (-i.exponent).toNat
  let quarter := Nat.pow 10 (-k).toNat * Nat.pow 2 i.exponent.toNat
  let value := 4 * i.mantissa * quarter
  let below := value / step
  let above := below + 1
  match i.contains (below * step) quarter, i.contains (above * step) quarter with
  | false, false => none
  | true, false => some ⟨below, k⟩
  | false, true => some ⟨above, k⟩
  | true, true =>
    match compare (2 * value) ((below + above) * step) with
    | .lt => some ⟨below, k⟩
    | .eq => some ⟨if below % 2 = 0 then below else above, k⟩
    | .gt => some ⟨above, k⟩

/-- A decimal without zeros at the end of its significand; at most `fuel` of them are dropped. -/
def strip : Nat → Decimal → Decimal
  | 0, d => d
  | fuel + 1, d =>
    if d.significand ≠ 0 ∧ d.significand % 10 = 0 then
      strip fuel ⟨d.significand / 10, d.exponent + 1⟩
    else d

/-- The shortest decimal of the magnitude of a double.  Seventeen digits always suffice. -/
def ofParts (p : Double.Parts) : Decimal :=
  if p.mantissa = 0 then ⟨0, 0⟩
  else
    let i := Interval.ofParts p.mantissa p.exponent
    let top := magnitude p.fraction.1 p.fraction.2
    match (List.range 17).findSome? fun (n : Nat) => i.onGrid? (top - 1 - n) with
    | some d => strip 17 d
    | none => ⟨p.mantissa, 0⟩

end Promptbook.Shortest
