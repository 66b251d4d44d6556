import Mathlib.Algebra.Order.Field.Rat
import Mathlib.Tactic.FieldSimp
import DailySignals.Proofs.Costs
import DailySignals.Proofs.Backtest.Accounting
import DailySignals.Proofs.Backtest.Exits
import DailySignals.Proofs.Backtest.Gaps

/-!
# Trades follow from their days

What a trade says is known from its entry and its exit date: both prices are
those that fill an order of the date, the quantity is what the order bought at
the equity of its moment, and the profit counts the costs on both.  The entry is
over long before the trade is made, so a run is followed with a record of where
each position came from (`TakenUp`, `Traced`).
-/

set_option autoImplicit false

namespace DailySignals

variable {α : Type}

namespace PriceSeries

variable [Arithmetic α]

/-- How an order of a date is filled: at the price of the next calendar day that
the mode asks for, if there is one above zero, and at the day's close if not. -/
inductive Fills (series : PriceSeries α) (mode : FillMode) (date : Date) (close : α) :
    α → Prop where
  | sameDay (unfilled : ∀ price, series.nextPrice? mode date = some price → ¬ 0 < price) :
      Fills series mode date close close
  | nextOpen {next : PriceBar α} (asked : mode = .nextOpen)
      (found : series.nextDay? date = some next) (dated : next.date.day = date.day + 1)
      (positive : 0 < next.opening) : Fills series mode date close next.opening
  | nextClose {next : PriceBar α} (asked : mode = .nextClose)
      (found : series.nextDay? date = some next) (dated : next.date.day = date.day + 1)
      (positive : 0 < next.close) : Fills series mode date close next.close

theorem fills_nextPrice {series : PriceSeries α} {mode : FillMode} {date : Date}
    {close price : α} (asked : series.nextPrice? mode date = some price)
    (positive : 0 < price) : series.Fills mode date close price := by
  cases mode with
  | currentClose => cases asked
  | nextOpen =>
      obtain ⟨next, found, rfl⟩ := Option.map_eq_some_iff.mp asked
      exact .nextOpen rfl found (date_of_nextDay? found) positive
  | nextClose =>
      obtain ⟨next, found, rfl⟩ := Option.map_eq_some_iff.mp asked
      exact .nextClose rfl found (date_of_nextDay? found) positive

theorem fills_fillPrice (series : PriceSeries α) (mode : FillMode) (date : Date) (close : α) :
    series.Fills mode date close (series.fillPrice mode date close) := by
  rw [fillPrice]
  cases asked : series.nextPrice? mode date with
  | none =>
      apply Fills.sameDay
      intro price other
      cases asked.symm.trans other
  | some price =>
      by_cases positive : 0 < price
      · simp only [if_pos positive]
        exact fills_nextPrice asked positive
      · simp only [if_neg positive]
        apply Fills.sameDay
        intro other same
        cases Option.some.inj (asked.symm.trans same)
        exact positive

/-- A price at which an order of a date is filled, by the bar of that date. -/
def FilledAt (series : PriceSeries α) (mode : FillMode) (date : Date) (price : α) : Prop :=
  ∃ bar, series.get? date = some bar ∧ bar.date = date ∧
    price = series.fillPrice mode date bar.close ∧ series.Fills mode date bar.close price

theorem filledAt_fillPrice {series : PriceSeries α} {date : Date} {bar : PriceBar α}
    (found : series.get? date = some bar) (mode : FillMode) :
    series.FilledAt mode bar.date (series.fillPrice mode bar.date bar.close) := by
  have dated : bar.date = date := date_of_get? found
  rw [← dated] at found
  exact ⟨bar, found, rfl, rfl, fills_fillPrice series mode bar.date bar.close⟩

end PriceSeries

namespace Backtest

open Portfolio

section Origin

variable [Arithmetic α]

theorem take_of_prefix {β : Type} {items done : List β} {item : β}
    (upTo : done ++ [item] <+: items) :
    items[done.length]? = some item ∧ items.take done.length = done ∧
      items.take (done.length + 1) = done ++ [item] := by
  obtain ⟨rest, rfl⟩ := upTo
  simp [List.take_append]

/-- A position that the order of one of the days bought: the run had come to that
day, its exit step had left the account without a position, with the trades
`closed` and worth `equity`, and the order was sized by that. -/
inductive TakenUp (strategy : Strategy α) (registry : Registry α) (series : PriceSeries α)
    (initial : α) (days : List (TradingDay α)) (closed : List (Trade α)) (equity : α)
    (position : Position α) : Prop where
  | on {index : Nat} {day : TradingDay α} {before between after : Portfolio α}
      (found : days[index]? = some day)
      (earlier : simulate strategy registry series (start initial) (days.take index) =
        .ok before)
      (exited : exitStep strategy registry series day before = .ok between)
      (reached : simulate strategy registry series (start initial) (days.take (index + 1)) =
        .ok after)
      (free : between.position = none)
      (closed_eq : between.trades = closed)
      (equity_eq : between.equity = equity)
      (order : newPosition? strategy series day.bar equity = some position)
      (holds : after.position = some position)

/-- An account whose trades and whose open position come from orders of the days. -/
structure Traced (strategy : Strategy α) (registry : Registry α) (series : PriceSeries α)
    (initial : α) (days : List (TradingDay α)) (portfolio : Portfolio α) : Prop where
  trades : ∀ earlier trade later, portfolio.trades = earlier ++ trade :: later →
    ∃ position equity reason, ∃ day ∈ days,
      TakenUp strategy registry series initial days earlier equity position ∧
      trade = closingTrade strategy series day.bar position reason
  held : ∀ position, portfolio.position = some position →
    ∃ equity, TakenUp strategy registry series initial days portfolio.trades equity position

variable {strategy : Strategy α} {registry : Registry α} {series : PriceSeries α} {initial : α}
  {days done : List (TradingDay α)} {day : TradingDay α} {portfolio after : Portfolio α}
  {position : Position α}

theorem traced_start : Traced strategy registry series initial days (start initial) where
  trades := by simp [start]
  held := by simp [start]

theorem Traced.released (traced : Traced strategy registry series initial days portfolio)
    (held : portfolio.position = some position) (member : day ∈ days) (reason : ExitReason) :
    Traced strategy registry series initial days
      (portfolio.released position (closingTrade strategy series day.bar position reason)) where
  trades := by
    intro earlier trade later whole
    -- the trade asked for is the new one at the end, or one of those before it
    rcases List.eq_nil_or_concat later with rfl | ⟨between, last, rfl⟩
    · obtain ⟨rfl, new⟩ := List.append_inj' whole rfl
      obtain ⟨equity, taken⟩ := traced.held position held
      exact ⟨position, equity, reason, day, member, taken, (List.cons.inj new).1.symm⟩
    · rw [List.concat_eq_append, ← List.cons_append, ← List.append_assoc] at whole
      exact traced.trades earlier trade between (List.append_inj' whole rfl).1
  held := by
    intro other stillHeld
    cases stillHeld

theorem Traced.holding (traced : Traced strategy registry series initial days portfolio)
    {equity : α}
    (taken : TakenUp strategy registry series initial days portfolio.trades equity position) :
    Traced strategy registry series initial days (portfolio.holding position) where
  trades := traced.trades
  held := by
    intro other held
    cases held
    exact ⟨equity, taken⟩

theorem ExitOutcome.traced
    (outcome : ExitOutcome strategy registry series day portfolio after) (member : day ∈ days)
    (traced : Traced strategy registry series initial days portfolio) :
    Traced strategy registry series initial days after := by
  cases outcome with
  | flat => exact traced
  | kept => exact traced
  | closed held => exact traced.released held member _

/-- A day that a run comes to keeps the record of where everything came from. -/
theorem dayStep_traced (upTo : done ++ [day] <+: days)
    (earlier : simulate strategy registry series (start initial) done = .ok portfolio)
    (traced : Traced strategy registry series initial days portfolio)
    (step : dayStep strategy registry series portfolio day = .ok after) :
    Traced strategy registry series initial days after := by
  have reached : simulate strategy registry series (start initial) (done ++ [day]) =
      .ok after := simulate_concat_eq_ok.mpr ⟨portfolio, earlier, step⟩
  obtain ⟨between, afterEntry, exited, entered, rfl⟩ := dayStep_eq_ok.mp step
  have left := exited.traced (upTo.subset (by simp)) traced
  have entryTraced : Traced strategy registry series initial days afterEntry := by
    cases entered with
    | occupied => exact left
    | blocked => exact left
    | quiet => exact left
    | unfilled => exact left
    | opened free allowed signalled order =>
        -- the record names the day by its index, the run comes to it by its prefix
        obtain ⟨found, before, upToDay⟩ := take_of_prefix upTo
        rw [← before] at earlier
        rw [← upToDay] at reached
        exact left.holding (.on found earlier (exitStep_eq_ok.mpr exited) reached free rfl rfl
          order rfl)
  exact ⟨entryTraced.trades, entryTraced.held⟩

theorem simulate_traced {final : Portfolio α}
    (success : simulate strategy registry series (start initial) days = .ok final) :
    Traced strategy registry series initial days final := by
  -- the record of a day contains the run up to it, so the invariant carries that along
  have followed : simulate strategy registry series (start initial) days = .ok final ∧
      Traced strategy registry series initial days final := by
    apply simulate_invariant (fun done account =>
      simulate strategy registry series (start initial) done = .ok account ∧
        Traced strategy registry series initial days account)
      ⟨simulate_nil _, traced_start⟩ ?_ success
    rintro done day before after upTo ⟨earlier, traced⟩ step
    exact ⟨simulate_concat_eq_ok.mpr ⟨before, earlier, step⟩,
      dayStep_traced upTo earlier traced step⟩
  exact followed.2

end Origin

end Backtest

/-! ## What follows from the record -/

open Backtest

/-- A position that an order bought at some equity. -/
structure Position.BoughtAt (strategy : Strategy Rat) (series : PriceSeries Rat) (equity : Rat)
    (position : Position Rat) : Prop where
  filled : series.FilledAt strategy.risk.fillMode position.entryDate position.entryPrice
  entryPrice_pos : 0 < position.entryPrice
  quantity_pos : 0 < position.quantity
  notional_eq : position.quantity * position.entryPrice = strategy.risk.orderNotional equity

/-- A trade that says what follows from its two dates: both prices are those of
the dates, something was bought, and the profit, as an amount and as a fraction
of what was paid, counts slippage on both prices and fees on both amounts. -/
structure Trade.FollowsFrom (strategy : Strategy Rat) (series : PriceSeries Rat)
    (trade : Trade Rat) : Prop where
  entry_filled : series.FilledAt strategy.risk.fillMode trade.entryDate trade.entryPrice
  exit_filled : series.FilledAt strategy.risk.fillMode trade.exitDate trade.exitPrice
  entryPrice_pos : 0 < trade.entryPrice
  quantity_pos : 0 < trade.quantity
  profit_eq : trade.profit = trade.quantity *
    ((trade.exitPrice * (1 - strategy.risk.slippage) -
        trade.entryPrice * (1 + strategy.risk.slippage)) -
      strategy.risk.fees * (trade.entryPrice * (1 + strategy.risk.slippage) +
        trade.exitPrice * (1 - strategy.risk.slippage)))
  profitRate_eq : trade.profitRate *
    (trade.entryPrice * (1 + strategy.risk.slippage) * trade.quantity) = trade.profit

namespace Backtest

open Portfolio

variable {strategy : Strategy Rat} {registry : Registry Rat} {series : PriceSeries Rat}
  {initial equity : Rat} {days : List (TradingDay Rat)} {day : TradingDay Rat}
  {closed : List (Trade Rat)} {position : Position Rat}

theorem newPosition?_boughtAt (found : series.get? day.date = some day.bar)
    (order : newPosition? strategy series day.bar equity = some position) :
    position.BoughtAt strategy series equity := by
  obtain ⟨entryPrice, quantity, notional⟩ := newPosition?_notional order
  obtain ⟨_, _, rfl⟩ := newPosition?_eq_some.mp order
  exact ⟨PriceSeries.filledAt_fillPrice found strategy.risk.fillMode, entryPrice, quantity,
    notional⟩

/-- When a position was taken up, the account was worth the money of the start
and the profit of the trades so far. -/
theorem TakenUp.equity_eq
    (taken : TakenUp strategy registry series initial days closed equity position) :
    equity = initial + totalProfit closed := by
  cases taken with
  | on found earlier exited reached free sameTrades sameEquity order holds =>
      have books := (exitStep_eq_ok.mp exited).balanced (simulate_balanced earlier)
      rw [← sameEquity, ← sameTrades]
      exact books.equity_of_flat free

theorem TakenUp.boughtAt
    (taken : TakenUp strategy registry series initial days closed equity position)
    (aligned : ∀ day ∈ days, series.get? day.date = some day.bar) :
    position.BoughtAt strategy series equity := by
  cases taken with
  | on found earlier exited reached free sameTrades sameEquity order holds =>
      exact newPosition?_boughtAt (aligned _ (List.mem_of_getElem? found)) order

theorem closingTrade_followsFrom (valid : strategy.risk.validate = .ok ())
    (bought : position.BoughtAt strategy series equity)
    (found : series.get? day.date = some day.bar) (reason : ExitReason) :
    (closingTrade strategy series day.bar position reason).FollowsFrom strategy series where
  entry_filled := bought.filled
  exit_filled := PriceSeries.filledAt_fillPrice found strategy.risk.fillMode
  entryPrice_pos := bought.entryPrice_pos
  quantity_pos := bought.quantity_pos
  profit_eq := Fill.profit_fst bought.entryPrice_pos bought.quantity_pos
  profitRate_eq := Fill.profit_snd bought.entryPrice_pos bought.quantity_pos
    (RiskSettings.slippage_nonneg valid)

/-- Every trade of a run follows from its two dates.  Its quantity is what the
order of its entry bought, at the equity of that moment: the money of the start
and the profit of the trades before it. -/
theorem run_trades_derived (strategy : Strategy Rat) (period : Period Rat)
    (history : List (Snapshot Rat)) (series : PriceSeries Rat) (registry : Registry Rat)
    (strategyValid : strategy.validate = .ok ()) (periodValid : period.validate = .ok ()) :
    ∃ result, run strategy period history series registry = .ok result ∧
      ∀ earlier trade later, result.trades = earlier ++ trade :: later →
        trade.FollowsFrom strategy series ∧
        trade.quantity * trade.entryPrice =
          strategy.risk.orderNotional (period.equity + totalProfit earlier) ∧
        ∃ position,
          TakenUp strategy registry series period.equity (tradingDays period history series)
            earlier (period.equity + totalProfit earlier) position ∧
          trade.Closes position trade.exitDate := by
  obtain ⟨final, simulated, success⟩ :=
    run_complete strategyValid periodValid history series registry
  have ownBar : ∀ day ∈ tradingDays period history series,
      series.get? day.date = some day.bar := fun _ member => (mem_tradingDays.mp member).2.2
  refine ⟨ofPortfolio final period.equity, success, ?_⟩
  intro earlier trade later whole
  obtain ⟨position, equity, reason, day, member, taken, rfl⟩ :=
    (simulate_traced simulated).trades earlier trade later whole
  have worth := taken.equity_eq
  have bought := taken.boughtAt ownBar
  rw [← worth]
  refine ⟨closingTrade_followsFrom (Strategy.risk_valid strategyValid) bought
    (ownBar day member) reason, bought.notional_eq, position, taken, ?_⟩
  have closes : (closingTrade strategy series day.bar position reason).Closes position day.date :=
    closingTrade_closes (aligned_of_mem member) reason
  rw [← closes.exitDate_eq] at closes
  exact closes

/-- The sample buys at the next opening and then puts what its first trade left into
the second.  On its last day there is no next opening, and it sells at the close. -/
theorem run_trades_derived_invested :
    Sample.invested.validate = .ok () ∧ Sample.period.validate = .ok () ∧
      ∃ result first second, run Sample.invested Sample.period Sample.history Sample.series
          Registry.builtin = .ok result ∧
        result.trades = [first, second] ∧
        (first.entryPrice, first.exitPrice) = (110, 121) ∧
        (second.entryPrice, second.exitPrice) = (121, 121) ∧
        first.FollowsFrom Sample.invested Sample.series ∧
        second.FollowsFrom Sample.invested Sample.series ∧
        second.quantity * second.entryPrice =
          Sample.invested.risk.orderNotional (Sample.period.equity + totalProfit [first]) := by
  refine ⟨Sample.invested_valid, Sample.period_valid, ?_⟩
  obtain ⟨result, success, derived⟩ := run_trades_derived Sample.invested Sample.period
    Sample.history Sample.series Registry.builtin Sample.invested_valid Sample.period_valid
  obtain ⟨_, _, final, simulated, rfl⟩ := run_eq_ok.mp success
  have outcome : ((simulate Sample.invested Registry.builtin Sample.ordered
      (start Sample.period.equity) Sample.days).toOption.all fun account =>
        account.trades.map (fun trade => (trade.entryPrice, trade.exitPrice)) ==
          [(110, 121), (121, 121)]) = true := by
    decide +kernel
  rw [← Sample.tradingDays_eq, ← Sample.series_eq_ordered, simulated] at outcome
  simp only [Except.toOption, Option.all_some, beq_iff_eq] at outcome
  obtain ⟨first, rest, whole, firstPrices, restPrices⟩ := List.map_eq_cons_iff.mp outcome
  obtain ⟨second, none, rfl, secondPrices, noneLeft⟩ := List.map_eq_cons_iff.mp restPrices
  cases List.map_eq_nil_iff.mp noneLeft
  obtain ⟨firstFollows, _⟩ := derived [] first [second] whole
  obtain ⟨secondFollows, sized, _⟩ := derived [first] second [] whole
  exact ⟨_, first, second, success, whole, firstPrices, secondPrices, firstFollows,
    secondFollows, sized⟩

end Backtest

end DailySignals
