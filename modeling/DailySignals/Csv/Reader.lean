import DailySignals.Text.Blank

/-!
# Reading comma-separated text

Records end at a line break, fields at a comma.  A field that begins with a
quote runs to the closing quote, with a doubled quote for one; what follows the
closing quote is taken as it stands.  Lines without any character hold no
record.
-/

set_option autoImplicit false

namespace DailySignals

namespace Csv

def isBreak (c : Char) : Bool :=
  c = '\n' || c = '\r'

/-- Where the reader stands. -/
inductive State where
  /-- Before the first character of a record. -/
  | record
  /-- Before the first character of a field. -/
  | field
  | bare
  | quoted
  /-- Behind a quote inside a quoted field. -/
  | quote
  deriving DecidableEq, Repr

/-- The records of a text.  `fields` are the finished fields of the current
record and `current` the characters of its current field, both last first. -/
def recordsFrom (fields : List String) (current : List Char) :
    State → List Char → List (List String)
  | .record, [] => []
  | _, [] => [finish fields current]
  | .record, c :: rest =>
      if isBreak c then recordsFrom [] [] .record rest
      else if c = '"' then recordsFrom [] [] .quoted rest
      else if c = ',' then recordsFrom (close [] []) [] .field rest
      else recordsFrom [] [c] .bare rest
  | .field, c :: rest =>
      if c = '"' then recordsFrom fields [] .quoted rest
      else if c = ',' then recordsFrom (close fields []) [] .field rest
      else if isBreak c then finish fields [] :: recordsFrom [] [] .record rest
      else recordsFrom fields [c] .bare rest
  | .bare, c :: rest =>
      if c = ',' then recordsFrom (close fields current) [] .field rest
      else if isBreak c then finish fields current :: recordsFrom [] [] .record rest
      else recordsFrom fields (c :: current) .bare rest
  | .quoted, c :: rest =>
      if c = '"' then recordsFrom fields current .quote rest
      else recordsFrom fields (c :: current) .quoted rest
  | .quote, c :: rest =>
      if c = '"' then recordsFrom fields ('"' :: current) .quoted rest
      else if c = ',' then recordsFrom (close fields current) [] .field rest
      else if isBreak c then finish fields current :: recordsFrom [] [] .record rest
      else recordsFrom fields (c :: current) .bare rest
where
  /-- The finished fields with the current one, its blanks trimmed, added. -/
  close (fields : List String) (current : List Char) : List String :=
    String.ofList (Text.trimChars current.reverse) :: fields
  finish (fields : List String) (current : List Char) : List String :=
    (close fields current).reverse

/-- A text without the mark that may stand at its very beginning. -/
def dropMark : List Char → List Char
  | c :: rest => if c.toNat = 0xFEFF then rest else c :: rest
  | [] => []

def records (text : String) : List (List String) :=
  recordsFrom [] [] .record (dropMark text.toList)

end Csv

end DailySignals
