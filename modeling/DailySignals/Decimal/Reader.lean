import DailySignals.Decimal.Basic

/-!
# Reading numbers from text

A number is an optional sign, digits with at most one point among them, and an
optional exponent; or one of the words for infinity and not-a-number.  Counts
are digits alone and are refused beyond their limit.
-/

set_option autoImplicit false

namespace DailySignals

namespace Decimal

/-- The digits at the head of a text, and the rest. -/
def spanDigits (text : List Char) : List Char × List Char :=
  (text.takeWhile Char.isDigit, text.dropWhile Char.isDigit)

/-- The number that a run of decimal digits stands for. -/
def valueOf (digits : List Char) : Nat :=
  digits.foldl (fun value digit => value * 10 + (digit.toNat - '0'.toNat)) 0

/-- A sign, taken as negative or not, and the rest. -/
def spanSign : List Char → Bool × List Char
  | '-' :: rest => (true, rest)
  | '+' :: rest => (false, rest)
  | text => (false, text)

/-- A whole text as an exponent: an optional sign and at least one digit. -/
def readExponent? (text : List Char) : Option Int :=
  let (negative, rest) := spanSign text
  if rest.isEmpty || !rest.all Char.isDigit then none
  else
    let value : Int := valueOf rest
    some (if negative then -value else value)

/-- The parts of a number as it is written, without its sign. -/
structure Spelling where
  whole : List Char
  fraction : List Char
  exponent : Int

/-- A whole text as digits with at most one point and an optional exponent. -/
def spell? (text : List Char) : Option Spelling :=
  let (whole, afterWhole) := spanDigits text
  let (fraction, rest) := match afterWhole with
    | '.' :: afterPoint => spanDigits afterPoint
    | other => ([], other)
  if whole.isEmpty && fraction.isEmpty then none
  else
    match rest with
    | [] => some ⟨whole, fraction, 0⟩
    | mark :: exponentText =>
        if mark = 'e' ∨ mark = 'E' then
          (readExponent? exponentText).map fun exponent => ⟨whole, fraction, exponent⟩
        else none

/-- The number that all digits of a spelling make. -/
def Spelling.toDecimal (negative : Bool) (spelling : Spelling) : Decimal where
  negative := negative
  digits := valueOf (spelling.whole ++ spelling.fraction)
  exponent := spelling.exponent - spelling.fraction.length

/-- A whole text without sign as a number. -/
def readMagnitude? (negative : Bool) (text : List Char) : Option Decimal :=
  (spell? text).map (Spelling.toDecimal negative)

end Decimal

namespace Numeral

def lower (text : List Char) : List Char :=
  text.map Char.toLower

/-- A whole text as a double. -/
def float? (text : String) : Option Float :=
  let (negative, rest) := Decimal.spanSign text.toList
  let word := String.ofList (lower rest)
  let signed := fun (x : Float) => if negative then -x else x
  if word = "inf" ∨ word = "infinity" then
    some (signed (Float.ofBits 0x7FF0000000000000))
  else if word = "nan" then some (Float.ofBits 0x7FF8000000000000)
  else (Decimal.readMagnitude? negative rest).map Decimal.toFloat

/-- Digits alone, at least one of them. -/
def digits? (text : List Char) : Option Nat :=
  if text.isEmpty || !text.all Char.isDigit then none
  else some (Decimal.valueOf text)

/-- A whole text as a count no greater than `limit`; a plus sign is allowed. -/
def count? (limit : Nat) (text : String) : Option Nat := do
  let value ← match text.toList with
    | '+' :: rest => digits? rest
    | rest => digits? rest
  if value ≤ limit then some value else none

/-- A whole number, if it fits 64 bits with its sign. -/
def fitting64? (value : Int) : Option Int :=
  if -0x8000000000000000 ≤ value ∧ value < 0x8000000000000000 then some value else none

/-- A whole text as a signed number that fits 64 bits. -/
def signed? (text : String) : Option Int := do
  let (negative, rest) := Decimal.spanSign text.toList
  let magnitude ← digits? rest
  fitting64? (if negative then -magnitude else magnitude)

/-- The greatest count of 32 bits. -/
def limit32 : Nat := 0xFFFFFFFF

/-- The greatest count of 64 bits. -/
def limit64 : Nat := 0xFFFFFFFFFFFFFFFF

end Numeral

end DailySignals
