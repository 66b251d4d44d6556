import DailySignals.Arithmetic
import DailySignals.Decimal.Reader
import DailySignals.Json.Value

/-!
# The values of JSON numbers

A number in a JSON text is read in one pass.  Its digits are gathered into a
whole number as long as that fits 64 bits, and those beyond count as places
only.  The whole number is rounded to the arithmetic and then scaled by a power
of ten, so up to two roundings are made, and in doubles the value can miss the
one nearest to the text by a little.  A number that is too large has no value.
-/

set_option autoImplicit false

namespace DailySignals

namespace Json

/-- Appends digits to a number as long as it fits 64 bits.  The first digit
that does not fit is left, with all behind it. -/
def gather (value : Nat) : List Char → Nat × List Char
  | [] => (value, [])
  | digit :: rest =>
      let longer := value * 10 + Decimal.valueOf [digit]
      if longer ≤ Numeral.limit64 then gather longer rest else (value, digit :: rest)

/-- The number that the gathered digits of a spelling make.  Each digit left
over from the whole part is one more place; the fraction is appended by the
same rule. -/
def gathered (negative : Bool) (spelling : Decimal.Spelling) : Decimal :=
  let (whole, left) := gather 0 spelling.whole
  let (digits, unread) := gather whole spelling.fraction
  let places : Int := left.length - (spelling.fraction.length - unread.length)
  ⟨negative, digits, places + spelling.exponent⟩

/-- The greatest exponent of a power of ten that numbers are scaled by. -/
def greatestPower : Nat := 308

section

variable {α : Type} [Arithmetic α]

/-- A power of ten. -/
def power (exponent : Nat) : α :=
  Arithmetic.ofDecimal ⟨false, 1, exponent⟩

/-- A magnitude moved to the left by some places, if it is not too large. -/
def enlarge? (magnitude : α) (places : Nat) : Option α :=
  if places ≤ greatestPower then
    let product := magnitude * power places
    if Arithmetic.isFinite product then some product else none
  else if magnitude ≤ 0 then some magnitude
  else none

/-- A magnitude moved to the right by some places, in steps of the greatest
power until it has vanished or the last step is reached. -/
def reduce (magnitude : α) (places : Nat) : α :=
  if places ≤ greatestPower then magnitude / power places
  else if magnitude ≤ 0 then magnitude
  else reduce (magnitude / power greatestPower) (places - greatestPower)
termination_by places
decreasing_by
  have : greatestPower = 308 := rfl
  omega

/-- A written number as a whole number that is scaled. -/
def scale? (decimal : Decimal) : Option α :=
  let magnitude := Arithmetic.ofNat decimal.digits
  let scaled :=
    if 0 ≤ decimal.exponent then enlarge? magnitude decimal.exponent.toNat
    else some (reduce magnitude decimal.exponent.natAbs)
  scaled.map fun value => if decimal.negative then -value else value

/-- The value of a JSON number. -/
def number? : Json → Option α
  | number literal => do
      let (negative, magnitude) := Decimal.spanSign literal.toList
      let spelling ← Decimal.spell? magnitude
      scale? (gathered negative spelling)
  | _ => none

end

end Json

end DailySignals
