/-!
# Decimal numbers as they are written

A written number is a sign, its digits read as one natural number, and a
power of ten.  Reading it into the arithmetic of a run happens elsewhere; this
module holds the written form and its nearest double.
-/

set_option autoImplicit false

namespace DailySignals

/-- The number `±digits · 10 ^ exponent`. -/
structure Decimal where
  negative : Bool
  digits : Nat
  exponent : Int
  deriving DecidableEq, Repr, Inhabited

namespace Decimal

/-- How many decimal digits `n` has; zero has one. -/
def width (n : Nat) : Nat :=
  (Nat.toDigits 10 n).length

/-- The natural number `n`. -/
def ofNat (n : Nat) : Decimal :=
  ⟨false, n, 0⟩

/-- The double nearest to a number `digits · 10 ^ exponent`, ties to even.

Above `10 ^ 310` every number overflows and below `10 ^ -330` every number
vanishes, so no power outside that range is formed. -/
def nearestMagnitude (digits : Nat) (exponent : Int) : Float :=
  if digits = 0 then 0.0
  else
    let size := (width digits : Int) + exponent
    if size > 310 then Float.ofBits 0x7FF0000000000000
    else if size < -330 then 0.0
    else Float.ofScientific digits (decide (exponent < 0)) exponent.natAbs

/-- The double nearest to a written number. -/
def toFloat (d : Decimal) : Float :=
  let magnitude := nearestMagnitude d.digits d.exponent
  if d.negative then -magnitude else magnitude

/-- The exact value of a written number. -/
def toRat (d : Decimal) : Rat :=
  let magnitude : Rat :=
    Rat.ofScientific d.digits (decide (d.exponent < 0)) d.exponent.natAbs
  if d.negative then -magnitude else magnitude

end Decimal

end DailySignals
