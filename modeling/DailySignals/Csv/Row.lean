import DailySignals.Calendar.Text
import DailySignals.Csv.Reader
import DailySignals.Decimal.Reader

/-!
# Rows with named columns

The first record of a table names its columns.  A row has one field for each of
them.  Columns that are not asked for are passed over; one that is asked for
may stand only once.
-/

set_option autoImplicit false

namespace DailySignals

namespace Csv

/-- A row as pairs of column name and field. -/
abbrev Row :=
  List (String × String)

/-- The fields of a record under the names of the header, if they are as many. -/
def rowOf? (header record : List String) : Option Row :=
  if record.length = header.length then some (header.zip record) else none

namespace Row

/-- The field of a column; absent without the column, and nothing at all where
it stands twice. -/
def cell? (row : Row) (column : String) : Option (Option String) :=
  match row.filter fun (name, _) => name == column with
  | [] => some none
  | [(_, field)] => some (some field)
  | _ => none

/-- A column that must be there. -/
def required {β : Type} (row : Row) (column : String) (read : String → Option β) : Option β := do
  match ← row.cell? column with
  | some field => read field
  | none => none

/-- A column that may be missing, with the value it then has. -/
def defaulted {β : Type} (row : Row) (column : String) (absent : β)
    (read : String → Option β) : Option β := do
  match ← row.cell? column with
  | some field => read field
  | none => some absent

/-- A column that may be missing or empty. -/
def optional {β : Type} (row : Row) (column : String) (read : String → Option β) :
    Option (Option β) := do
  match ← row.cell? column with
  | some field => if field.isEmpty then some none else (read field).map some
  | none => some none

end Row

def bool? (field : String) : Option Bool :=
  if field = "true" then some true else if field = "false" then some false else none

def text? (field : String) : Option String :=
  some field

def hexDigit? (c : Char) : Option Nat :=
  if c.isDigit then some (c.toNat - '0'.toNat)
  else
    let small := c.toLower
    if 'a' ≤ small ∧ small ≤ 'f' then some (small.toNat - 'a'.toNat + 10) else none

/-- Hexadecimal digits, at least one of them. -/
def hexDigits? (digits : List Char) : Option Nat :=
  if digits.isEmpty then none
  else digits.foldlM (fun value digit => (hexDigit? digit).map (value * 16 + ·)) 0

/-- A whole number of 64 bits, decimal or, behind `0x`, hexadecimal. -/
def int64? (field : String) : Option Int :=
  match field.toList with
  | '0' :: 'x' :: digits => do
      let (negative, digits) := Decimal.spanSign digits
      let magnitude ← hexDigits? digits
      Numeral.fitting64? (if negative then -magnitude else magnitude)
  | _ => Numeral.signed? field

/-- What the rows of a table stand for, or the first row, counted from one
behind the header, that cannot be read. -/
def readRows {β : Type} (read : Row → Option β) (header : List String) (number : Nat) :
    List (List String) → Except Nat (List β)
  | [] => .ok []
  | record :: rest =>
      match (rowOf? header record).bind read with
      | none => .error number
      | some value => (readRows read header (number + 1) rest).map (value :: ·)

/-- The rows of a whole text. -/
def readTable {β : Type} (read : Row → Option β) (text : String) : Except Nat (List β) :=
  match records text with
  | [] => .ok []
  | header :: rows => readRows read header 1 rows

end Csv

end DailySignals
