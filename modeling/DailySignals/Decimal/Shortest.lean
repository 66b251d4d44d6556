import DailySignals.Decimal.Binary

/-!
# The fewest digits that read back

Every double is the nearest double to an interval of numbers.  The shortest
form is a point of the coarsest decimal grid that meets this interval: of the
two neighbours of the value on that grid the one that lies in the interval,
and of two that do, the nearer.  All comparisons are between natural numbers.
-/

set_option autoImplicit false

namespace DailySignals

/-- Which neighbour a number exactly half-way between two is written as. -/
inductive Tie where
  | toEven
  | away
  deriving DecidableEq, Repr

namespace Shortest

/-- The numbers that read as one double, with ends `low` and `high` and the
double itself all counted in units of `2 ^ (exponent - 2)`. -/
structure Interval where
  low : Nat
  value : Nat
  high : Nat
  /-- Whether the ends themselves read as this double. -/
  closed : Bool
  exponent : Int
  deriving Repr

/-- A mantissa at the foot of its binade has a nearer neighbour below. -/
def Interval.ofBinary (mantissa : Nat) (exponent : Int) : Interval where
  low := 4 * mantissa - (if mantissa = Binary.leadingBit ∧ -1074 < exponent then 1 else 2)
  value := 4 * mantissa
  high := 4 * mantissa + 2
  closed := mantissa % 2 = 0
  exponent := exponent - 2

/-- What a unit of the interval and a unit of the grid `10 ^ place` come to
when both are counted in one common unit. -/
def scales (interval : Interval) (place : Int) : Nat × Nat :=
  (Nat.pow 2 interval.exponent.toNat * Nat.pow 10 (-place).toNat,
    Nat.pow 10 place.toNat * Nat.pow 2 (-interval.exponent).toNat)

/-- The multiple of `10 ^ place` that is written for the interval, if one of
the value's two neighbours on that grid lies in it. -/
def onGrid (tie : Tie) (interval : Interval) (place : Int) : Option Nat :=
  let (fine, grid) := scales interval place
  let value := interval.value * fine
  let below := value / grid
  let excess := value - below * grid
  let fitsBelow :=
    if interval.closed then decide (interval.low * fine ≤ below * grid)
    else decide (interval.low * fine < below * grid)
  let fitsAbove :=
    if interval.closed then decide ((below + 1) * grid ≤ interval.high * fine)
    else decide ((below + 1) * grid < interval.high * fine)
  let upper :=
    if 2 * excess = grid then
      match tie with
      | .toEven => below % 2 = 1
      | .away => true
    else decide (grid < 2 * excess)
  match fitsBelow, fitsAbove with
  | true, true => some (if upper then below + 1 else below)
  | true, false => some below
  | false, true => some (below + 1)
  | false, false => none

/-- Tries ever finer grids, and takes the last one as it is. -/
def search (tie : Tie) (interval : Interval) : Nat → Int → Nat × Int
  | 0, place =>
      let (fine, grid) := scales interval place
      (interval.value * fine / grid, place)
  | tries + 1, place =>
      match onGrid tie interval place with
      | some digits => (digits, place)
      | none => search tie interval tries (place - 1)

/-- A power of ten at or above the value, a little too large at worst. -/
def startPlace (mantissa : Nat) (exponent : Int) : Int :=
  ((Nat.log2 mantissa : Int) + exponent + 1) * 30103 / 100000 + 2

/-- Digits and power of ten of the shortest form of `mantissa · 2 ^ exponent`.
Seventeen digits always suffice; the grid starts two places early. -/
def digits (tie : Tie) (mantissa : Nat) (exponent : Int) : Nat × Int :=
  if mantissa = 0 then (0, 0)
  else
    search tie (Interval.ofBinary mantissa exponent) 22
      (startPlace mantissa exponent)

end Shortest

end DailySignals
