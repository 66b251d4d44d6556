import Mathlib.Algebra.Order.Field.Rat
import Mathlib.Tactic.FieldSimp
import Mathlib.Tactic.Ring
import Mathlib.Tactic.Linarith
import DailySignals.Proofs.Backtest.Completion
import DailySignals.Proofs.Exact

/-!
# No money is lost or counted twice

In exact arithmetic the account is worth what it began with, the profit of the
trades closed so far and what the open position has gained.  The invariant
behind it ties the cash to the trades and to the cost of the open position; it
holds between any two days.
-/

set_option autoImplicit false

namespace DailySignals

/-- The profit of some trades together. -/
def totalProfit (trades : List (Trade Rat)) : Rat :=
  (trades.map (·.profit)).sum

namespace Portfolio

/-- What the open position has gained over its entry at a price. -/
def openGain (portfolio : Portfolio Rat) (price : Rat) : Rat :=
  match portfolio.position with
  | none => 0
  | some position => position.quantity * (price - position.entryPrice)

/-- What the open position has cost. -/
def openCost (portfolio : Portfolio Rat) : Rat :=
  match portfolio.position with
  | none => 0
  | some position => position.costBasis

/-- An account whose books balance, for a run that began with `initial`. -/
structure Balanced (initial : Rat) (portfolio : Portfolio Rat) : Prop where
  cash_eq : portfolio.cash + portfolio.openCost = initial + totalProfit portfolio.trades
  cost_eq : ∀ position, portfolio.position = some position →
    position.costBasis = position.quantity * position.entryPrice
  flat_equity : portfolio.position = none → portfolio.equity = portfolio.cash

theorem balanced_start (initial : Rat) : Balanced initial (start initial) where
  cash_eq := by simp [start, openCost, totalProfit]
  cost_eq := by
    intro position held
    cases held
  flat_equity := fun _ => rfl

variable {initial : Rat} {portfolio : Portfolio Rat} {position : Position Rat}

/-- Leaving a position turns its cost and the profit of the trade into cash. -/
theorem cash_released (held : portfolio.position = some position) (trade : Trade Rat)
    (before : portfolio.cash + portfolio.openCost = initial + totalProfit portfolio.trades) :
    (portfolio.released position trade).cash + (portfolio.released position trade).openCost =
      initial + totalProfit (portfolio.released position trade).trades := by
  simp only [openCost, held, totalProfit] at before
  simp only [Portfolio.released, openCost, totalProfit, List.map_append, List.sum_append,
    List.map_cons, List.map_nil, List.sum_cons, List.sum_nil]
  linarith

/-- Taking up a position turns cash into its cost. -/
theorem cash_holding (free : portfolio.position = none) (position : Position Rat)
    (before : portfolio.cash + portfolio.openCost = initial + totalProfit portfolio.trades) :
    (portfolio.holding position).cash + (portfolio.holding position).openCost =
      initial + totalProfit (portfolio.holding position).trades := by
  simp only [openCost, free] at before
  simp only [Portfolio.holding, openCost]
  linarith

theorem Balanced.released (balanced : Balanced initial portfolio)
    (held : portfolio.position = some position) (trade : Trade Rat) :
    Balanced initial (portfolio.released position trade) where
  cash_eq := cash_released held trade balanced.cash_eq
  cost_eq := by
    intro other stillHeld
    cases stillHeld
  flat_equity := fun _ => rfl

theorem Balanced.holding (balanced : Balanced initial portfolio)
    (free : portfolio.position = none)
    (cost : position.costBasis = position.quantity * position.entryPrice) :
    Balanced initial (portfolio.holding position) where
  cash_eq := cash_holding free position balanced.cash_eq
  cost_eq := by
    intro other held
    cases held
    exact cost
  flat_equity := by
    intro free
    cases free

theorem heldValue_eq (balanced : Balanced initial portfolio) (close : Rat) :
    portfolio.heldValue close = portfolio.openCost + portfolio.openGain close := by
  cases held : portfolio.position with
  | none =>
      simp only [heldValue, openCost, openGain, held]
      rw [Arithmetic.numeral_rat, Nat.cast_zero, add_zero]
  | some position =>
      simp only [heldValue, openCost, openGain, held, Position.marketValue,
        balanced.cost_eq position held]
      ring

theorem Balanced.marked (balanced : Balanced initial portfolio) (date : Date) (close : Rat) :
    Balanced initial (portfolio.markToMarket date close) where
  cash_eq := balanced.cash_eq
  cost_eq := balanced.cost_eq
  flat_equity := by
    intro free
    have unheld : portfolio.position = none := free
    change portfolio.cash + portfolio.heldValue close = portfolio.cash
    rw [heldValue_eq balanced, openCost, openGain, unheld, add_zero, add_zero]

/-- A flat account is worth the money of the start and the profit of its trades. -/
theorem Balanced.equity_of_flat (balanced : Balanced initial portfolio)
    (free : portfolio.position = none) :
    portfolio.equity = initial + totalProfit portfolio.trades := by
  have cash := balanced.cash_eq
  rw [openCost, free, add_zero] at cash
  rw [balanced.flat_equity free, cash]

/-- A valuation at a price is the money of the start, the profit of the trades
and the gain of the open position. -/
theorem Balanced.marked_equity (balanced : Balanced initial portfolio) (date : Date)
    (close : Rat) :
    (portfolio.markToMarket date close).equity =
      initial + totalProfit portfolio.trades + portfolio.openGain close := by
  change portfolio.cash + portfolio.heldValue close = _
  rw [heldValue_eq balanced, ← balanced.cash_eq, add_assoc]

end Portfolio

namespace Backtest

open Portfolio

variable {strategy : Strategy Rat} {registry : Registry Rat} {series : PriceSeries Rat}
  {day : TradingDay Rat} {initial : Rat} {portfolio after : Portfolio Rat}

/-- A new position is carried at what it costs. -/
theorem newPosition?_cost {bar : PriceBar Rat} {equity : Rat} {position : Position Rat}
    (bought : newPosition? strategy series bar equity = some position) :
    position.costBasis = position.quantity * position.entryPrice := by
  obtain ⟨_, _, rfl⟩ := newPosition?_eq_some.mp bought
  rfl

/-- What an order buys is worth its notional at a price above zero. -/
theorem newPosition?_notional {bar : PriceBar Rat} {equity : Rat} {position : Position Rat}
    (bought : newPosition? strategy series bar equity = some position) :
    0 < position.entryPrice ∧ 0 < position.quantity ∧
      position.quantity * position.entryPrice = strategy.risk.orderNotional equity := by
  obtain ⟨funded, priced, rfl⟩ := newPosition?_eq_some.mp bought
  rw [Arithmetic.numeral_rat, Nat.cast_zero] at funded priced
  exact ⟨priced, div_pos funded priced, div_mul_cancel₀ _ priced.ne'⟩

theorem ExitOutcome.balanced (outcome : ExitOutcome strategy registry series day portfolio after)
    (balanced : Balanced initial portfolio) : Balanced initial after := by
  cases outcome with
  | flat => exact balanced
  | kept => exact balanced
  | closed held leaves => exact balanced.released held _

theorem EntryOutcome.balanced {dayStart : Rat}
    (outcome : EntryOutcome strategy registry series day dayStart portfolio after)
    (balanced : Balanced initial portfolio) : Balanced initial after := by
  cases outcome with
  | occupied => exact balanced
  | blocked => exact balanced
  | quiet => exact balanced
  | unfilled => exact balanced
  | opened free allowed signalled bought =>
      exact balanced.holding free (newPosition?_cost bought)

/-- A day keeps the books balanced, and records what they say. -/
theorem dayStep_balanced (balanced : Balanced initial portfolio)
    (success : dayStep strategy registry series portfolio day = .ok after) :
    Balanced initial after ∧
      after.equity = initial + totalProfit after.trades + after.openGain day.bar.close := by
  obtain ⟨afterExit, afterEntry, exited, entered, rfl⟩ := dayStep_eq_ok.mp success
  have books : Balanced initial afterEntry := entered.balanced (exited.balanced balanced)
  exact ⟨books.marked _ _, books.marked_equity _ _⟩

theorem simulate_balanced {days : List (TradingDay Rat)} {final : Portfolio Rat}
    (success : simulate strategy registry series (Portfolio.start initial) days = .ok final) :
    Balanced initial final := by
  apply simulate_invariant (fun _ account => Balanced initial account) (balanced_start initial)
    ?_ success
  intro done day before after _ balanced step
  exact (dayStep_balanced balanced step).1

/-- After a run the account is worth what was recorded last. -/
theorem simulate_equity {days : List (TradingDay Rat)} {final : Portfolio Rat}
    (success : simulate strategy registry series (Portfolio.start initial) days = .ok final) :
    (final.curve.getLast?.map (·.equity)).getD initial = final.equity := by
  apply simulate_invariant
    (fun _ account => (account.curve.getLast?.map (·.equity)).getD initial = account.equity)
    rfl ?_ success
  intro done day before after _ _ step
  rw [dayStep_curve step, List.getLast?_concat]
  rfl

/-- A flat account has gained the profit of its trades and nothing else. -/
theorem simulate_flat {days : List (TradingDay Rat)} {final : Portfolio Rat}
    (success : simulate strategy registry series (Portfolio.start initial) days = .ok final)
    (free : final.position = none) : final.equity = initial + totalProfit final.trades :=
  (simulate_balanced success).equity_of_flat free

/-- The total return is the gain of the last equity point over the start. -/
theorem totalReturnOf_mul {curve : List (EquityPoint Rat)} (positive : 0 < initial) :
    Statistics.totalReturnOf curve initial * initial =
      (curve.getLast?.map (·.equity)).getD initial - initial := by
  rw [Statistics.totalReturnOf]
  simp only [Arithmetic.numeral_rat, Nat.cast_zero, Nat.cast_one, if_pos positive]
  field_simp

/-- In exact arithmetic every recorded equity is the money of the start, the
profit of the trades closed by the end of that day and the gain of the position
that is then open.  A run that ends flat has therefore gained the profit of its
trades, and its total return says so. -/
theorem run_equity_accounted (strategy : Strategy Rat) (period : Period Rat)
    (history : List (Snapshot Rat)) (series : PriceSeries Rat) (registry : Registry Rat)
    (strategyValid : strategy.validate = .ok ()) (periodValid : period.validate = .ok ()) :
    ∃ result, run strategy period history series registry = .ok result ∧
      (∀ index point, result.curve[index]? = some point →
        ∃ day account,
          (tradingDays period history series)[index]? = some day ∧
          simulate strategy registry series (Portfolio.start period.equity)
            ((tradingDays period history series).take (index + 1)) = .ok account ∧
          account.trades <+: result.trades ∧
          point.date = day.date ∧
          point.equity = period.equity + totalProfit account.trades +
            account.openGain day.bar.close) ∧
      (result.openPosition = none →
        (∀ last, result.curve.getLast? = some last →
          last.equity = period.equity + totalProfit result.trades) ∧
        result.statistics.totalReturn * period.equity = totalProfit result.trades) := by
  obtain ⟨final, simulated, success⟩ :=
    run_complete strategyValid periodValid history series registry
  refine ⟨ofPortfolio final period.equity, success, ?_, ?_⟩
  · intro index point recorded
    have inside : index < (tradingDays period history series).length := by
      rw [← simulate_curve_length simulated]
      exact (List.getElem?_eq_some_iff.mp recorded).1
    have found := List.getElem?_eq_getElem inside
    obtain ⟨before, account, earlier, step, reached, kept, entered⟩ :=
      simulate_day simulated found
    have same : (⟨TradingDay.date _, account.equity⟩ : EquityPoint Rat) = point :=
      Option.some.inj (entered.symm.trans recorded)
    subst same
    exact ⟨_, account, found, reached, kept, rfl,
      (dayStep_balanced (simulate_balanced earlier) step).2⟩
  · intro free
    have worth := simulate_flat simulated free
    have recorded := simulate_equity simulated
    constructor
    · intro last isLast
      rw [show final.curve.getLast? = some last from isLast] at recorded
      exact recorded.trans worth
    · change Statistics.totalReturnOf final.curve period.equity * period.equity = _
      rw [totalReturnOf_mul (Period.equity_pos periodValid), recorded, worth]
      exact add_sub_cancel_left _ _

/-- The books of the sample run, which leaves and enters on its second day. -/
theorem run_equity_accounted_reentry :
    Sample.strategy.validate = .ok () ∧ Sample.period.validate = .ok () ∧
      ∃ result, run Sample.strategy Sample.period Sample.history Sample.series
          Registry.builtin = .ok result ∧
        result.openPosition = none ∧ result.trades.length = 2 ∧
        result.statistics.totalReturn * Sample.period.equity = totalProfit result.trades := by
  refine ⟨Sample.strategy_valid, Sample.period_valid, ?_⟩
  obtain ⟨result, success, _, flat⟩ := run_equity_accounted Sample.strategy Sample.period
    Sample.history Sample.series Registry.builtin Sample.strategy_valid Sample.period_valid
  obtain ⟨_, _, final, simulated, rfl⟩ := run_eq_ok.mp success
  have outcome : ((simulate Sample.strategy Registry.builtin Sample.series
      (Portfolio.start Sample.period.equity) Sample.days).toOption.all fun account =>
        account.position.isNone && account.trades.length == 2) = true := by
    decide +kernel
  rw [← Sample.tradingDays_eq, simulated] at outcome
  simp only [Except.toOption, Option.all_some, Bool.and_eq_true, Option.isNone_iff_eq_none,
    beq_iff_eq] at outcome
  exact ⟨_, success, outcome.1, outcome.2, (flat outcome.1).2⟩

end Backtest

namespace Sample

/-- The sample strategy, which now puts all that the account is worth into each
order, fills at the next opening, and pays a hundredth for slippage and for fees. -/
def invested : Strategy Rat :=
  { strategy with
    risk :=
      { strategy.risk with
        sizing := .percentOfEquity
        orderSize := 1
        fees := 1 / 100
        slippage := 1 / 100
        fillMode := .nextOpen } }

theorem invested_valid : invested.validate = .ok () :=
  eq_ok_of_toBool (by decide +kernel)

/-- The sample series with its bars in order, where the next price of a day can
be computed. -/
def ordered : PriceSeries Rat :=
  ⟨[bar firstDay 100, bar secondDay 110, bar thirdDay 121], by decide⟩

theorem series_eq_ordered : series = ordered :=
  (PriceSeries.mk.injEq _ _ _ _).mpr series_bars

end Sample

end DailySignals
