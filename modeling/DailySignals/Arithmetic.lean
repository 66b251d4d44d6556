import DailySignals.Decimal.Layout

/-!
# The arithmetic of a run

Prices, ratios and scores are computed in one arithmetic, which is a parameter
of everything that computes with them.  Programs run on doubles; laws that hold
of exact numbers are stated over the rationals, with the same definitions.
-/

set_option autoImplicit false

namespace DailySignals

/-- What a computation asks of its numbers. -/
class Arithmetic (α : Type) extends
    Add α, Sub α, Mul α, Div α, Neg α, LT α, LE α where
  decidableLT : DecidableLT α
  decidableLE : DecidableLE α
  /-- The number nearest to a written one. -/
  ofDecimal : Decimal → α
  isFinite : α → Bool
  isNaN : α → Bool
  /-- A total order, which agrees with `<` wherever that decides. -/
  order : α → α → Ordering

instance Arithmetic.instDecidableLT {α : Type} [Arithmetic α] : DecidableLT α :=
  Arithmetic.decidableLT

instance Arithmetic.instDecidableLE {α : Type} [Arithmetic α] : DecidableLE α :=
  Arithmetic.decidableLE

namespace Arithmetic

instance : Arithmetic Float where
  decidableLT := inferInstance
  decidableLE := inferInstance
  ofDecimal := Decimal.toFloat
  isFinite := Float.isFinite
  isNaN := Float.isNaN
  order := fun x y => compare (Binary.orderKey x) (Binary.orderKey y)

instance : Arithmetic Rat where
  decidableLT := inferInstance
  decidableLE := inferInstance
  ofDecimal := Decimal.toRat
  isFinite := fun _ => true
  isNaN := fun _ => false
  order := fun x y => if x < y then .lt else if y < x then .gt else .eq

variable {α : Type} [Arithmetic α]

/-- The number of things counted. -/
def ofNat (n : Nat) : α :=
  ofDecimal (Decimal.ofNat n)

/-- A whole number of either sign. -/
def ofInt (n : Int) : α :=
  ofDecimal ⟨decide (n < 0), n.natAbs, 0⟩

instance (priority := low) (n : Nat) : OfNat α n where
  ofNat := ofNat n

instance (priority := low) : OfScientific α where
  ofScientific digits negative exponent :=
    ofDecimal ⟨false, digits, if negative then -exponent else exponent⟩

/-- The magnitude of a number. -/
def abs (x : α) : α :=
  if x < 0 then -x else x

/-- The total of a list, kept from zero on while the list is gone through. -/
def total (xs : List α) : α :=
  xs.foldl (· + ·) 0

/-- The sum of a list, added from its head on to negative zero.  Of negative zeros alone it
is one itself, where their total is zero. -/
def sum (xs : List α) : α :=
  xs.foldl (· + ·) (-0)

/-- Whether a number lies above zero; not-a-number does not. -/
def isPositive (x : α) : Bool :=
  decide (0 < x)

end Arithmetic

/-- Numbers that have a text. -/
class Printed (α : Type) where
  text : α → String

instance : Printed Float where
  text := Layout.plain.write

end DailySignals
