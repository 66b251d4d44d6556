import DailySignals.Decimal.Basic

/-!
# Doubles taken apart

A finite double is `±mantissa · 2 ^ exponent`.  Printing works on this exact
form, and the total order of doubles is the order of a signed key made of the
same bits.
-/

set_option autoImplicit false

namespace DailySignals

/-- What a double stands for. -/
inductive Binary where
  | nan
  | infinite (negative : Bool)
  | finite (negative : Bool) (mantissa : Nat) (exponent : Int)
  deriving DecidableEq, Repr

namespace Binary

/-- The bit of the sign. -/
def signBit : Nat := 0x8000000000000000

/-- The leading bit of a full mantissa, which is not stored. -/
def leadingBit : Nat := 0x10000000000000

def ofFloat (x : Float) : Binary :=
  let bits : Nat := x.toBits.toNat
  let negative := decide (signBit ≤ bits)
  let biased : Nat := bits / leadingBit % 2048
  let fraction : Nat := bits % leadingBit
  if biased = 2047 then
    if fraction = 0 then .infinite negative else .nan
  else if biased = 0 then .finite negative fraction (-1074)
  else .finite negative (fraction + leadingBit) ((biased : Int) - 1075)

/-- The place of a double in the total order that runs from the negative to
the positive doubles and puts negative zero below zero. -/
def orderKey (x : Float) : Int :=
  let bits : Nat := x.toBits.toNat
  if signBit ≤ bits then -((bits - signBit : Nat) : Int) - 1 else (bits : Int)

end Binary

end DailySignals
