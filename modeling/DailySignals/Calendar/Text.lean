import DailySignals.Calendar.Date
import DailySignals.Decimal.Reader
import DailySignals.Text.Blank

/-!
# Dates in text

Dates are written as year, month and day with hyphens between.  Years from 0
to 9999 have four digits, others a sign as well.  Readers differ only in the
blanks they allow: always in front of a number, and for records and options
also around the hyphens and at the end.
-/

set_option autoImplicit false

namespace DailySignals

namespace Date

/-- Decimal digits with leading zeros up to `width`. -/
def paddedDigits (width n : Nat) : List Char :=
  let digits := Nat.toDigits 10 n
  List.replicate (width - digits.length) '0' ++ digits

def yearText (year : Int) : List Char :=
  if 0 ≤ year ∧ year ≤ 9999 then paddedDigits 4 year.natAbs
  else (if year < 0 then '-' else '+') :: paddedDigits 4 year.natAbs

def text (date : Date) : String :=
  let civil := date.toCivil
  String.ofList
    (yearText civil.year ++ '-' :: paddedDigits 2 civil.month ++
      '-' :: paddedDigits 2 civil.day)

/-- Between one and `most` digits off the head of a text. -/
def takeNumber? (most : Nat) (text : List Char) : Option (Nat × List Char) :=
  let digits := (text.take most).takeWhile Char.isDigit
  if digits.isEmpty then none
  else some (Decimal.valueOf digits, text.drop digits.length)

/-- A year off the head of a text: at most four digits, or any count of them
behind a sign. -/
def takeYear? (text : List Char) : Option (Int × List Char) :=
  match Text.skipBlanks text with
  | '-' :: rest =>
      (takeNumber? rest.length rest).map fun (year, rest) => (-(year : Int), rest)
  | '+' :: rest =>
      (takeNumber? rest.length rest).map fun (year, rest) => ((year : Int), rest)
  | rest => (takeNumber? 4 rest).map fun (year, rest) => ((year : Int), rest)

/-- A month or a day of the month off the head of a text. -/
def takePart? (text : List Char) : Option (Nat × List Char) :=
  takeNumber? 2 (Text.skipBlanks text)

/-- A hyphen off the head of a text, with blanks before it if `loose`. -/
def takeHyphen? (loose : Bool) (text : List Char) : Option (List Char) :=
  match if loose then Text.skipBlanks text else text with
  | '-' :: rest => some rest
  | _ => none

def read? (loose : Bool) (text : String) : Option Date := do
  let (year, rest) ← takeYear? text.toList
  let rest ← takeHyphen? loose rest
  let (month, rest) ← takePart? rest
  let rest ← takeHyphen? loose rest
  let (day, rest) ← takePart? rest
  let rest := if loose then Text.skipBlanks rest else rest
  if rest.isEmpty then ofCivil? ⟨year, month, day⟩ else none

/-- A date in a configuration. -/
def readStrict? (text : String) : Option Date :=
  read? false text

/-- A date in a record or an option. -/
def readLoose? (text : String) : Option Date :=
  read? true text

end Date

end DailySignals
