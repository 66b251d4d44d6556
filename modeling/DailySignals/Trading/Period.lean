import DailySignals.Trading.Risk
import DailySignals.Calendar.Date

/-!
# The period of a run
-/

set_option autoImplicit false

namespace DailySignals

/-- First and last day of a run, and the money it starts with. -/
structure Period (α : Type) where
  start : Date
  finish : Date
  equity : α

namespace Period

inductive Defect where
  | reversed
  | equityNotPositive
  deriving DecidableEq, Repr

namespace Defect

def message : Defect → String
  | reversed => "end_date must not be before start_date"
  | equityNotPositive => "initial_equity must be a positive number"

end Defect

variable {α : Type}

/-- Whether a date lies in the period, both ends included. -/
def contains (period : Period α) (date : Date) : Bool :=
  decide (period.start ≤ date) && decide (date ≤ period.finish)

def validate [Arithmetic α] (period : Period α) : Except Defect Unit := do
  if period.finish < period.start then throw .reversed
  if !RiskSettings.isSize period.equity then throw .equityNotPositive

end Period

end DailySignals
