import DailySignals.Store.Source
import DailySignals.Trading.Backtest

/-!
# The inputs of a run

A run reads the successful rows of its symbol in its period, and the bars from
the first day to a little past the last, so that orders of the last days can
still be filled on a following day.
-/

set_option autoImplicit false

namespace DailySignals

/-- History in date order and the price series that a run needs. -/
structure RunInputs (α : Type) where
  history : List (Snapshot α)
  series : PriceSeries α

namespace RunInputs

/-- The most rows of history that a run reads. -/
def historyLimit : Nat := 4000

/-- Calendar days of prices read past the last day. -/
def lookaheadDays : Nat := 2

/-- The last day of prices that a run reads. -/
def horizon (finish : Date) : Date :=
  (finish.addDays? lookaheadDays).getD finish

variable {α : Type}

def load (source : Source α) (symbol : String) (start finish : Date) :
    Except (Failure α) (RunInputs α) := do
  let rows ← source.history
    { symbol := symbol, start := some start, finish := some finish, limit := some historyLimit }
  if rows.isEmpty then throw (.noData symbol)
  let bars ← source.prices symbol
  let near := bars.filter fun bar =>
    decide (start ≤ bar.date) && decide (bar.date ≤ horizon finish)
  return ⟨Snapshot.inDateOrder rows, PriceSeries.ofBars near⟩

end RunInputs

end DailySignals
