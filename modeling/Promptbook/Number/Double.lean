/-!
# Doubles as exact numbers

A finite double is a whole number times a power of two.  On that form the conversions are exact:
to whole numbers, from decimal and common fractions, and to the length of a displacement, each
rounded once, to the nearest double, a tie going to the even neighbour.
-/

namespace Promptbook.Double

open Float.Model

/-- The exact value of a finite double: a sign, a whole number and a power of two. -/
structure Parts where
  negative : Bool
  mantissa : Nat
  exponent : Int
  deriving DecidableEq, Repr

/-- Why a double has no exact value. -/
inductive NonFinite where
  | infinite
  | notANumber
  deriving DecidableEq, Repr

/-- The wording of a failed conversion to a whole number. -/
def NonFinite.message : NonFinite → String
  | .infinite => "cannot convert float infinity to integer"
  | .notANumber => "cannot convert float NaN to integer"

/-- The exact value of a double, or why it has none. -/
def parts (x : Float) : Except NonFinite Parts :=
  match x.toModel.unpack with
  | .infinity _ => .error .infinite
  | .notANumber => .error .notANumber
  | .zero s => .ok ⟨s == .negative, 0, 0⟩
  | .finite s m e _ => .ok ⟨s == .negative, m, e⟩

/-- The magnitude of an exact value as a fraction of whole numbers. -/
def Parts.fraction (p : Parts) : Nat × Nat :=
  (p.mantissa * Nat.pow 2 p.exponent.toNat, Nat.pow 2 (-p.exponent).toNat)

/-- A magnitude with the sign of an exact value. -/
def Parts.signed (p : Parts) (n : Nat) : Int := if p.negative then -n else n

/-- The quotient of two whole numbers, rounded to the nearest whole number, a tie to the even. -/
def roundDiv (num den : Nat) : Nat :=
  let q := num / den
  match compare (2 * (num % den)) den with
  | .lt => q
  | .eq => q + q % 2
  | .gt => q + 1

/-- The whole number next to a double towards zero. -/
def truncate (x : Float) : Except NonFinite Int :=
  (parts x).map fun p => p.signed (p.fraction.1 / p.fraction.2)

/-- The whole number nearest to a double, a tie to the even. -/
def round (x : Float) : Except NonFinite Int :=
  (parts x).map fun p => p.signed (roundDiv p.fraction.1 p.fraction.2)

/-- The double infinity. -/
def infinity : Float := .ofModel (.pack (.infinity .positive))

/-- The double that is no number. -/
def notANumber : Float := .ofModel (.pack .notANumber)

/-- The double nearest to a whole number times a power of ten. -/
def ofDecimal (negative : Bool) (mantissa : Nat) (exponent : Int) : Float :=
  let x := Float.ofModel (Float.Model.ofScientific mantissa exponent)
  if negative then -x else x

/-- The double nearest to a whole number. -/
def ofInt (n : Int) : Float := ofDecimal (n < 0) n.natAbs 0

/-- The double nearest to a fraction of whole numbers. -/
def ofFraction (num : Int) (den : Nat) : Float :=
  let sign : UnpackedFloat.Sign := if num < 0 then .negative else .positive
  if hn : num.natAbs = 0 then .ofModel (.pack (.zero .positive))
  else if hd : den = 0 then .ofModel (.pack (.infinity sign))
  else .ofModel (.pack (UnpackedFloat.div .binary64
    (.finite sign num.natAbs 0 (Nat.pos_of_ne_zero hn))
    (.finite .positive den 0 (Nat.pos_of_ne_zero hd))))

/-- The length of the displacement with the two components: the root of the exact sum of their
squares, rounded once. -/
def hypot (dx dy : Float) : Float :=
  if dx.isInf || dy.isInf then infinity
  else match parts dx, parts dy with
    | .ok p, .ok q =>
      let e := min p.exponent q.exponent
      let scaled (r : Parts) : Nat := r.mantissa * Nat.pow 2 (r.exponent - e).toNat
      let sum := scaled p * scaled p + scaled q * scaled q
      if h : sum = 0 then .ofModel (.pack (.zero .positive))
      else .ofModel (.pack (UnpackedFloat.sqrt .binary64
        (.finite .positive sum (2 * e) (Nat.pos_of_ne_zero h))))
    | _, _ => notANumber

/-- The square of a double, or nothing when a finite double has an infinite one. -/
def square? (x : Float) : Option Float :=
  let y := x * x
  if x.isFinite && y.isInf then none else some y

end Promptbook.Double
