import DailySignals.Trading.Position
import DailySignals.Trading.Strategy

/-!
# When a position is left

The first of these that holds decides: the price has fallen to the stop-loss,
it has risen to the take-profit, the entry score has decayed to less than half
its threshold, the strategy's own sell signal is on.
-/

set_option autoImplicit false

namespace DailySignals

variable {α : Type} [Arithmetic α]

namespace Exit

/-- The part of the entry threshold below which a signal has decayed. -/
def decayFraction : α := 0.5

/-- The hard stop that a price has reached, if any.  The sign of the stop-loss
fraction does not matter. -/
def hardStop (entry mark : α) (stopLoss takeProfit : Option α) : Option ExitReason :=
  if entry ≤ 0 then none
  else
    let change := (mark - entry) / entry
    if stopLoss.any fun loss => decide (change ≤ -Arithmetic.abs loss) then some .stopLoss
    else if takeProfit.any fun gain => decide (gain ≤ change) then some .takeProfit
    else none

/-- The exit that the signals of a day call for, hard stops aside. -/
def signal (strategy : Strategy α) (registry : Registry α) (snapshot : Snapshot α) :
    Except ParamsFault (Option ExitReason) :=
  match strategy.signals with
  | .conditions _ sell =>
      .ok (if sell.holds .nothing snapshot then some .sellCondition else none)
  | .scoring rules => do
      let entryScore ← registry.score rules.entryRules snapshot
      if entryScore < rules.entryThreshold * decayFraction then return some .signalDecay
      else if ← registry.triggersExit rules.exitRules rules.exitThreshold snapshot then
        return some .sellCondition
      else return none

/-- The exit that a day calls for when a position is marked at a price. -/
def decision (strategy : Strategy α) (registry : Registry α) (snapshot : Snapshot α)
    (position : Position α) (mark : α) : Except ParamsFault (Option ExitReason) :=
  let (stopLoss, takeProfit) := strategy.hardStops
  match hardStop position.entryPrice mark stopLoss takeProfit with
  | some reason => .ok (some reason)
  | none => signal strategy registry snapshot

end Exit

end DailySignals
