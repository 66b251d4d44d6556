import DailySignals.Decimal.Shortest

/-!
# How numbers are laid out in text

Three layouts share the shortest digits: plain text, JSON records and tables.
Each is a record of the format's own decisions.  A fourth form writes a number
with a fixed count of places.
-/

set_option autoImplicit false

namespace DailySignals

/-- The decisions of one format. -/
structure Layout where
  /-- Which scientific exponents are written with a plain decimal point. -/
  positional : Int → Bool
  /-- What follows a whole number written with a plain decimal point. -/
  wholeMark : String
  /-- What stands before a positive exponent. -/
  exponentMark : String
  /-- Whether negative zero keeps its sign. -/
  signedZero : Bool
  tie : Tie

namespace Layout

/-- Running text: never an exponent, and whole numbers bare. -/
def plain : Layout where
  positional := fun _ => true
  wholeMark := ""
  exponentMark := ""
  signedZero := true
  tie := .away

/-- JSON records: an exponent below `10 ^ -5` and from `10 ^ 16` on. -/
def record : Layout where
  positional := fun exponent => -5 ≤ exponent && exponent < 16
  wholeMark := ".0"
  exponentMark := "+"
  signedZero := false
  tie := .toEven

/-- Table cells: as records, with a bare positive exponent. -/
def table : Layout where
  positional := fun exponent => -5 ≤ exponent && exponent < 16
  wholeMark := ".0"
  exponentMark := ""
  signedZero := true
  tie := .toEven

/-- A run of `n` zeros. -/
def zeros (n : Nat) : List Char :=
  List.replicate n '0'

/-- `digits · 10 ^ exponent` with a plain decimal point. -/
def withPoint (layout : Layout) (digits : List Char) (exponent : Int) : List Char :=
  if 0 ≤ exponent then
    digits ++ zeros exponent.toNat ++ layout.wholeMark.toList
  else
    let point := (digits.length : Int) + exponent
    if 0 < point then
      digits.take point.toNat ++ '.' :: digits.drop point.toNat
    else
      '0' :: '.' :: (zeros (-point).toNat ++ digits)

/-- One digit, the others behind a point, and the exponent. -/
def withExponent (layout : Layout) (digits : List Char) (scientific : Int) : List Char :=
  let mark := if scientific < 0 then "-" else layout.exponentMark
  let lead := match digits with
    | [] => []
    | [d] => [d]
    | d :: rest => d :: '.' :: rest
  lead ++ 'e' :: mark.toList ++ Nat.toDigits 10 scientific.natAbs

/-- The text of a finite magnitude. -/
def magnitude (layout : Layout) (mantissa : Nat) (exponent : Int) : List Char :=
  let (digits, place) := Shortest.digits layout.tie mantissa exponent
  let text := Nat.toDigits 10 digits
  let scientific := (text.length : Int) - 1 + place
  if layout.positional scientific then layout.withPoint text place
  else layout.withExponent text scientific

/-- The text of a double. -/
def write (layout : Layout) (x : Float) : String :=
  match Binary.ofFloat x with
  | .nan => "NaN"
  | .infinite negative => if negative then "-inf" else "inf"
  | .finite negative mantissa exponent =>
      let sign := if negative && (mantissa != 0 || layout.signedZero) then ['-'] else []
      String.ofList (sign ++ layout.magnitude mantissa exponent)

end Layout

namespace Fixed

/-- The whole number nearest to `numerator / denominator`, a half to the even
neighbour. -/
def roundHalfEven (numerator denominator : Nat) : Nat :=
  let below := numerator / denominator
  let excess := numerator % denominator
  if 2 * excess < denominator then below
  else if denominator < 2 * excess then below + 1
  else if below % 2 = 0 then below else below + 1

/-- A magnitude in units of `10 ^ -places`. -/
def scaled (places mantissa : Nat) (exponent : Int) : Nat :=
  roundHalfEven (mantissa * Nat.pow 10 places * Nat.pow 2 exponent.toNat)
    (Nat.pow 2 (-exponent).toNat)

/-- The text of a double with exactly `places` digits behind the point.  The
exact binary value is rounded, and the sign is kept even when only zeros are
left of it. -/
def write (places : Nat) (x : Float) : String :=
  match Binary.ofFloat x with
  | .nan => "NaN"
  | .infinite negative => if negative then "-inf" else "inf"
  | .finite negative mantissa exponent =>
      let digits := Nat.toDigits 10 (scaled places mantissa exponent)
      let padded := Layout.zeros (places + 1 - digits.length) ++ digits
      let whole := padded.take (padded.length - places)
      let rest := padded.drop (padded.length - places)
      let sign := if negative then ['-'] else []
      let point := if places = 0 then [] else ['.']
      String.ofList (sign ++ whole ++ point ++ rest)

end Fixed

end DailySignals
