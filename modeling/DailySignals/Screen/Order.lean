import DailySignals.Market.Snapshot

/-!
# The order of a screen

Rows are ordered by one field, upwards or downwards.  Rows without a value, or
with not-a-number, come last either way, and symbols decide between rows of
equal value.
-/

set_option autoImplicit false

namespace DailySignals

structure SortOrder where
  field : Field
  descending : Bool
  deriving DecidableEq, Repr

namespace SortOrder

def default : SortOrder :=
  ⟨.score, true⟩

variable {α : Type} [Arithmetic α]

/-- The value a row is ordered by. -/
def key? (order : SortOrder) (snapshot : Snapshot α) : Option α :=
  (snapshot.value? order.field).filter fun value => !Arithmetic.isNaN value

def compareKeys (descending : Bool) : Option α → Option α → Ordering
  | some first, some second =>
      if descending then (Arithmetic.order first second).swap
      else Arithmetic.order first second
  | some _, none => .lt
  | none, some _ => .gt
  | none, none => .eq

def compareRows (order : SortOrder) (first second : Snapshot α) : Ordering :=
  (compareKeys order.descending (order.key? first) (order.key? second)).then
    (compare first.symbol second.symbol)

/-- Rows in order; equal ones keep theirs. -/
def sort (order : SortOrder) (rows : List (Snapshot α)) : List (Snapshot α) :=
  rows.mergeSort fun first second => order.compareRows first second != .gt

end SortOrder

end DailySignals
