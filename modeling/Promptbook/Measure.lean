import Promptbook.Number.Double

/-!
# Measures

The numbers that places and times are measured in.  Doubles are one instance, and what the program
runs on; the definitions over a measure read the same on exact numbers.
-/

namespace Promptbook

/-- The arithmetic of places and times. -/
class Measure (α : Type) where
  [toAdd : Add α]
  [toSub : Sub α]
  [toMul : Mul α]
  [toDiv : Div α]
  [toNeg : Neg α]
  [toLT : LT α]
  [toLE : LE α]
  [toOfScientific : OfScientific α]
  /-- A count as a measure. -/
  ofNat : Nat → α
  /-- The length of the displacement with the two components. -/
  span : α → α → α
  /-- The square, or nothing where it is out of range. -/
  square? : α → Option α
  /-- Whether the measure is a number and no infinity. -/
  isFinite : α → Bool
  decLt : DecidableLT α
  decLe : DecidableLE α

namespace Measure

variable {α : Type} [Measure α]

instance (priority := 100) : Add α := toAdd

instance (priority := 100) : Sub α := toSub

instance (priority := 100) : Mul α := toMul

instance (priority := 100) : Div α := toDiv

instance (priority := 100) : Neg α := toNeg

instance (priority := 100) : LT α := toLT

instance (priority := 100) : LE α := toLE

instance (priority := 100) : OfScientific α := toOfScientific

instance (priority := 100) (a b : α) : Decidable (a < b) := decLt a b

instance (priority := 100) (a b : α) : Decidable (a ≤ b) := decLe a b

/-- The larger of two measures, the first unless the second is larger. -/
def sup (a b : α) : α := if a < b then b else a

/-- The largest of some measures, the earliest of equal ones. -/
def largest (a : α) (bs : List α) : α := bs.foldl sup a

@[simp] theorem largest_nil (a : α) : largest a [] = a := rfl

@[simp] theorem largest_cons (a b : α) (bs : List α) :
    largest a (b :: bs) = largest (sup a b) bs := rfl

/-- The sum of some measures, added one after the other from the left.  What each addition rounds
off is lost: no correction is carried along. -/
def total (bs : List α) : α := bs.foldl (· + ·) 0.0

theorem total_append (bs cs : List α) : total (bs ++ cs) = cs.foldl (· + ·) (total bs) :=
  List.foldl_append

theorem total_append_singleton (bs : List α) (b : α) : total (bs ++ [b]) = total bs + b :=
  total_append bs [b]

end Measure

instance : Measure Float where
  ofNat n := Double.ofInt n
  span := Double.hypot
  square? := Double.square?
  isFinite := Float.isFinite
  decLt := Float.decLt
  decLe := Float.decLe

end Promptbook
