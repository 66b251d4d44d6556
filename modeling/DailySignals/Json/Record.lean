import DailySignals.Json.Number
import DailySignals.Calendar.Text

/-!
# Records in JSON

A record is an object with named members, of which unknown ones are passed over
and known ones may not be repeated, or an array that gives the fields in order.
Numbers, dates and choices are refused where the field's type has no such value.
-/

set_option autoImplicit false

namespace DailySignals

namespace Json

/-- The values given for a name. -/
def valuesOf (members : List (Option String × Json)) (name : String) : List Json :=
  members.filterMap fun (key, value) => if key = some name then some value else none

/-- What a record gives for each of its fields. -/
def fields? (names : List String) : Json → Option (List (Option Json))
  | object members =>
      if members.any fun (key, _) => key.isNone then none
      else names.mapM fun name =>
        match valuesOf members name with
        | [] => some none
        | [value] => some (some value)
        | _ => none
  | array elements =>
      if elements.length = names.length then some (elements.map some) else none
  | _ => none

/-- A field that must be there. -/
def required {β : Type} (read : Json → Option β) (given : Option Json) : Option β :=
  given.bind read

/-- A field that may be missing or null. -/
def optional {β : Type} (read : Json → Option β) : Option Json → Option (Option β)
  | none | some null => some none
  | some json => (read json).map some

/-- A number as a double. -/
def float? : Json → Option Float :=
  number?

/-- A number written without point and exponent.  Minus zero is not one. -/
def int? : Json → Option Int
  | number literal =>
      match literal.toList with
      | '-' :: digits => do
          let magnitude ← Numeral.digits? digits
          if magnitude = 0 then none else some (-(magnitude : Int))
      | digits => (Numeral.digits? digits).map fun value => (value : Int)
  | _ => none

/-- A whole number of 64 bits with sign. -/
def int64? (json : Json) : Option Int := do
  Numeral.fitting64? (← int? json)

/-- A count no greater than `limit`. -/
def count? (limit : Nat) (json : Json) : Option Nat := do
  let value ← int? json
  if 0 ≤ value ∧ value ≤ limit then some value.toNat else none

def bool? : Json → Option Bool
  | bool value => some value
  | _ => none

def text? : Json → Option String
  | string content => content
  | _ => none

def date? (json : Json) : Option Date :=
  (text? json).bind Date.readLoose?

def list? {β : Type} (read : Json → Option β) : Json → Option (List β)
  | array elements => elements.mapM read
  | _ => none

/-- One of several named choices: its name, or an object with the name as its
only key and null as its value. -/
def choice? {β : Type} (choices : List (String × β)) (json : Json) : Option β :=
  let name := match json with
    | string content => content
    | object [(key, null)] => key
    | _ => none
  name.bind fun name => choices.lookup name

end Json

end DailySignals
