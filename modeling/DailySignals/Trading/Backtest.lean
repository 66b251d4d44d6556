import DailySignals.Failure
import DailySignals.Trading.Exit
import DailySignals.Trading.Fill
import DailySignals.Trading.Statistics

/-!
# Running a strategy over history

A run goes through the trading days of its period in date order: the days of
which a snapshot is known and which have a price bar.  A day first settles
whether the open position is left, then whether a new one is entered, and then
values the account at the day's close.
-/

set_option autoImplicit false

namespace DailySignals

/-- A day that is simulated. -/
structure TradingDay (α : Type) where
  snapshot : Snapshot α
  bar : PriceBar α

/-- What a run leaves behind. -/
structure Backtest (α : Type) where
  trades : List (Trade α)
  curve : List (EquityPoint α)
  statistics : Statistics α
  /-- The position that is still held after the last day. -/
  openPosition : Option (Position α)

namespace Backtest

variable {α : Type} [Arithmetic α]

/-- The trading days of a period in date order. -/
def tradingDays (period : Period α) (history : List (Snapshot α))
    (series : PriceSeries α) : List (TradingDay α) :=
  (Snapshot.inDateOrder history).filterMap fun snapshot =>
    if period.contains snapshot.date then
      (series.get? snapshot.date).map fun bar => ⟨snapshot, bar⟩
    else none

/-- Whether an exit may happen after a position was held for some days.  Hard
stops do not wait. -/
def exitPermitted (risk : RiskSettings α) (held : Int) (reason : ExitReason) : Bool :=
  reason.isHardStop || decide ((risk.minHoldDays : Int) ≤ held)

/-- Why the open position is left on a day, if it is. -/
def exitReason? (strategy : Strategy α) (registry : Registry α) (day : TradingDay α)
    (position : Position α) : Except ParamsFault (Option ExitReason) := do
  let reason ← Exit.decision strategy registry day.snapshot position day.bar.close
  return reason.filter
    (exitPermitted strategy.risk (position.holdDays day.snapshot.date))

/-- The trade that closes a position on the day of a bar. -/
def closingTrade (strategy : Strategy α) (series : PriceSeries α) (bar : PriceBar α)
    (position : Position α) (reason : ExitReason) : Trade α :=
  let risk := strategy.risk
  let price := series.fillPrice risk.fillMode bar.date bar.close
  let (profit, rate) :=
    Fill.profit position.entryPrice price position.quantity risk.slippage risk.fees
  { symbol := strategy.symbol
    entryDate := position.entryDate
    entryPrice := position.entryPrice
    exitDate := bar.date
    exitPrice := price
    quantity := position.quantity
    profit := profit
    profitRate := rate
    holdDays := position.holdDays bar.date
    reason := reason }

/-- The account after the exit step of a day. -/
def exitStep (strategy : Strategy α) (registry : Registry α) (series : PriceSeries α)
    (day : TradingDay α) (portfolio : Portfolio α) : Except ParamsFault (Portfolio α) :=
  match portfolio.position with
  | none => .ok portfolio
  | some position => do
      match ← exitReason? strategy registry day position with
      | none => return portfolio
      | some reason =>
          let trade := closingTrade strategy series day.bar position reason
          match portfolio.closing? trade with
          | some (_, closed) => return closed
          | none => return portfolio

/-- Whether the last exit is too recent for a new entry. -/
def coolingDown (risk : RiskSettings α) (portfolio : Portfolio α) (date : Date) : Bool :=
  decide (0 < risk.cooldownDays) &&
    (portfolio.daysSinceExit date).any fun days => decide (days ≤ (risk.cooldownDays : Int))

/-- Whether the account has lost too much since the day began. -/
def lossLimitReached (risk : RiskSettings α) (dayStart equity : α) : Bool :=
  risk.maxDailyLoss.any fun limit =>
    Arithmetic.isPositive dayStart && decide (limit ≤ (dayStart - equity) / dayStart)

def entryBlocked (risk : RiskSettings α) (portfolio : Portfolio α) (date : Date)
    (dayStart : α) : Bool :=
  coolingDown risk portfolio date || lossLimitReached risk dayStart portfolio.equity

/-- The position that an order of a day would open, if there is anything to
buy. -/
def newPosition? (strategy : Strategy α) (series : PriceSeries α) (bar : PriceBar α)
    (equity : α) : Option (Position α) :=
  let price := series.fillPrice strategy.risk.fillMode bar.date bar.close
  let notional := strategy.risk.orderNotional equity
  if 0 < notional ∧ 0 < price then some (Position.opened bar.date price (notional / price))
  else none

/-- The account after the entry step of a day that began with `dayStart`. -/
def entryStep (strategy : Strategy α) (registry : Registry α) (series : PriceSeries α)
    (day : TradingDay α) (dayStart : α) (portfolio : Portfolio α) :
    Except ParamsFault (Portfolio α) :=
  if portfolio.hasPosition ||
      entryBlocked strategy.risk portfolio day.snapshot.date dayStart then .ok portfolio
  else do
    if ← strategy.entrySignal registry day.snapshot then
      let opened := (newPosition? strategy series day.bar portfolio.equity).bind
        portfolio.opening?
      return opened.getD portfolio
    else return portfolio

/-- One day: exit, entry, valuation at the close. -/
def dayStep (strategy : Strategy α) (registry : Registry α) (series : PriceSeries α)
    (portfolio : Portfolio α) (day : TradingDay α) : Except ParamsFault (Portfolio α) := do
  let afterExit ← exitStep strategy registry series day portfolio
  let afterEntry ← entryStep strategy registry series day portfolio.equity afterExit
  return afterEntry.markToMarket day.snapshot.date day.bar.close

/-- The account after some trading days. -/
def simulate (strategy : Strategy α) (registry : Registry α) (series : PriceSeries α)
    (portfolio : Portfolio α) (days : List (TradingDay α)) :
    Except ParamsFault (Portfolio α) :=
  days.foldlM (dayStep strategy registry series) portfolio

def ofPortfolio (portfolio : Portfolio α) (initial : α) : Backtest α where
  trades := portfolio.trades
  curve := portfolio.curve
  statistics := Statistics.compute portfolio.trades portfolio.curve initial
  openPosition := portfolio.position

/-- Runs a strategy over the days of a period.  Strategy and period are
validated first. -/
def run (strategy : Strategy α) (period : Period α) (history : List (Snapshot α))
    (series : PriceSeries α) (registry : Registry α) : Except (Failure α) (Backtest α) := do
  strategy.validate.mapError fun defect => .invalid (.strategy defect)
  period.validate.mapError fun defect => .invalid (.period defect)
  let days := tradingDays period history series
  let final ← (simulate strategy registry series (Portfolio.start period.equity) days).mapError
    .params
  return ofPortfolio final period.equity

end Backtest

end DailySignals
