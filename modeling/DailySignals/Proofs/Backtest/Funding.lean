import Mathlib.Algebra.Order.Field.Rat
import Mathlib.Tactic.Linarith
import Mathlib.Tactic.FieldSimp
import DailySignals.Proofs.Backtest.Accounting

/-!
# Orders sized by the equity never borrow

An order takes a part of the equity, and its cost is taken from the cash.  These
are the same where no position is held, which is where orders are given.  So a
position that is sized by the equity is paid for with cash that is there, and
while it is held no cash moves.
-/

set_option autoImplicit false

namespace DailySignals

namespace Portfolio

/-- An account that has not borrowed for what it holds. -/
def Funded (portfolio : Portfolio Rat) : Prop :=
  portfolio.position ≠ none → 0 ≤ portfolio.cash

theorem funded_start (initial : Rat) : Funded (start initial) :=
  fun held => absurd rfl held

theorem funded_of_flat {portfolio : Portfolio Rat} (free : portfolio.position = none) :
    Funded portfolio :=
  fun held => absurd free held

theorem Funded.marked {portfolio : Portfolio Rat} (funded : Funded portfolio) (date : Date)
    (close : Rat) : Funded (portfolio.markToMarket date close) :=
  funded

end Portfolio

namespace Backtest

open Portfolio

variable {strategy : Strategy Rat} {registry : Registry Rat} {series : PriceSeries Rat}
  {day : TradingDay Rat} {initial dayStart : Rat} {portfolio after : Portfolio Rat}

/-- A flat account that orders a part of its equity has the cash for it. -/
theorem newPosition?_within_cash (valid : strategy.risk.validate = .ok ())
    (percent : strategy.risk.sizing = .percentOfEquity)
    (worth : portfolio.equity = portfolio.cash) {position : Position Rat}
    (order : newPosition? strategy series day.bar portfolio.equity = some position) :
    0 < position.costBasis ∧ position.costBasis ≤ portfolio.cash := by
  obtain ⟨priced, sized, notional⟩ := newPosition?_notional order
  have cost := newPosition?_cost order
  have part : position.costBasis = portfolio.cash * strategy.risk.orderSize := by
    rw [cost, notional, RiskSettings.orderNotional, percent, worth]
  -- what is bought costs something, so the equity that sized it is above zero: an
  -- account that lost more than it had orders nothing
  have positive : 0 < position.costBasis := cost ▸ mul_pos sized priced
  have cash : 0 < portfolio.cash :=
    (mul_pos_iff_of_pos_right (RiskSettings.orderSize_pos valid)).mp (part ▸ positive)
  refine ⟨positive, ?_⟩
  calc position.costBasis
      = portfolio.cash * strategy.risk.orderSize := part
    _ ≤ portfolio.cash * 1 :=
        mul_le_mul_of_nonneg_left (RiskSettings.orderSize_le_one valid percent) cash.le
    _ = portfolio.cash := mul_one _

theorem ExitOutcome.funded (outcome : ExitOutcome strategy registry series day portfolio after)
    (funded : Funded portfolio) : Funded after := by
  cases outcome with
  | flat => exact funded
  | kept => exact funded
  | closed => exact funded_of_flat rfl

theorem EntryOutcome.funded (valid : strategy.risk.validate = .ok ())
    (percent : strategy.risk.sizing = .percentOfEquity)
    (outcome : EntryOutcome strategy registry series day dayStart portfolio after)
    (balanced : Balanced initial portfolio) (funded : Funded portfolio) : Funded after := by
  cases outcome with
  | occupied => exact funded
  | blocked => exact funded
  | quiet => exact funded
  | unfilled => exact funded
  | opened free allowed signalled order =>
      have within := newPosition?_within_cash valid percent (balanced.flat_equity free) order
      exact fun _ => sub_nonneg.mpr within.2

theorem simulate_funded (valid : strategy.risk.validate = .ok ())
    (percent : strategy.risk.sizing = .percentOfEquity) {days : List (TradingDay Rat)}
    {final : Portfolio Rat}
    (success : simulate strategy registry series (start initial) days = .ok final) :
    Balanced initial final ∧ Funded final := by
  apply simulate_invariant (fun _ account => Balanced initial account ∧ Funded account)
    ⟨balanced_start initial, funded_start initial⟩ ?_ success
  rintro done day before after _ ⟨balanced, funded⟩ step
  refine ⟨(dayStep_balanced balanced step).1, ?_⟩
  obtain ⟨between, entered, exit, entry, rfl⟩ := dayStep_eq_ok.mp step
  have fundedEntered : Funded entered :=
    entry.funded valid percent (exit.balanced balanced) (exit.funded funded)
  exact fundedEntered.marked day.date day.bar.close

/-- A run whose orders are sized by the equity never borrows: whatever a day takes
up costs something and no more than the cash of that moment, and at each moment
of a day at which a position is held the cash is not negative. -/
theorem run_never_borrows (strategy : Strategy Rat) (period : Period Rat)
    (history : List (Snapshot Rat)) (series : PriceSeries Rat) (registry : Registry Rat)
    (strategyValid : strategy.validate = .ok ()) (periodValid : period.validate = .ok ())
    (percent : strategy.risk.sizing = .percentOfEquity) :
    ∃ result, run strategy period history series registry = .ok result ∧
      ∀ index day, (tradingDays period history series)[index]? = some day →
        ∃ before between entered after,
          simulate strategy registry series (start period.equity)
            ((tradingDays period history series).take index) = .ok before ∧
          exitStep strategy registry series day before = .ok between ∧
          entryStep strategy registry series day before.equity between = .ok entered ∧
          entered.markToMarket day.date day.bar.close = after ∧
          simulate strategy registry series (start period.equity)
            ((tradingDays period history series).take (index + 1)) = .ok after ∧
          (∀ position, entered.position = some position → between.position ≠ some position →
            0 < position.costBasis ∧ position.costBasis ≤ between.cash ∧
              entered.cash = between.cash - position.costBasis) ∧
          ∀ account ∈ [before, between, entered, after],
            account.position ≠ none → 0 ≤ account.cash := by
  have valid := Strategy.risk_valid strategyValid
  obtain ⟨final, simulated, success⟩ :=
    run_complete strategyValid periodValid history series registry
  refine ⟨ofPortfolio final period.equity, success, ?_⟩
  intro index day found
  obtain ⟨before, after, earlier, step, reached, _, _⟩ := simulate_day simulated found
  obtain ⟨balanced, funded⟩ := simulate_funded valid percent earlier
  obtain ⟨between, entered, exit, entry, rfl⟩ := dayStep_eq_ok.mp step
  have balancedBetween := exit.balanced balanced
  have fundedBetween := exit.funded funded
  have fundedEntered : Funded entered :=
    entry.funded valid percent balancedBetween fundedBetween
  refine ⟨before, between, entered, _, earlier, exitStep_eq_ok.mpr exit,
    entryStep_eq_ok.mpr entry, rfl, reached, ?_, ?_⟩
  · intro position held new
    obtain ⟨free, order, rfl⟩ := entry.ordered_of_new held new
    have within :=
      newPosition?_within_cash valid percent (balancedBetween.flat_equity free) order
    exact ⟨within.1, within.2, rfl⟩
  · intro account member
    simp only [List.mem_cons, List.not_mem_nil, or_false] at member
    rcases member with rfl | rfl | rfl | rfl
    · exact funded
    · exact fundedBetween
    · exact fundedEntered
    · exact fundedEntered.marked day.date day.bar.close

/-- On its second day the sample sells at a profit less costs and puts all of it
into its next order, after which it has no cash left and owes none. -/
theorem run_never_borrows_invested :
    Sample.invested.validate = .ok () ∧ Sample.period.validate = .ok () ∧
      Sample.invested.risk.sizing = .percentOfEquity ∧
      ∃ between entered : Portfolio Rat, ∃ position,
        between.position = none ∧ between.trades.length = 1 ∧
        entered.position = some position ∧ 0 < position.costBasis ∧
        position.costBasis ≤ between.cash ∧ entered.cash = 0 := by
  refine ⟨Sample.invested_valid, Sample.period_valid, rfl, ?_⟩
  obtain ⟨_, _, moments⟩ := run_never_borrows Sample.invested Sample.period Sample.history
    Sample.series Registry.builtin Sample.invested_valid Sample.period_valid rfl
  rw [Sample.tradingDays_eq] at moments
  obtain ⟨before, between, entered, _, earlier, exited, entry, _, _, within, _⟩ :=
    moments 1 _ rfl
  rw [Sample.series_eq_ordered] at earlier exited entry
  have outcome : ((simulate Sample.invested Registry.builtin Sample.ordered
      (start Sample.period.equity) (Sample.days.take 1)).toOption.all fun before =>
        (exitStep Sample.invested Registry.builtin Sample.ordered
          ⟨Sample.snapshot Sample.secondDay 3, Sample.bar Sample.secondDay 110⟩
          before).toOption.all fun between =>
            between.position.isNone && between.trades.length == 1 &&
              (entryStep Sample.invested Registry.builtin Sample.ordered
                ⟨Sample.snapshot Sample.secondDay 3, Sample.bar Sample.secondDay 110⟩
                before.equity between).toOption.all fun entered =>
                  entered.position.isSome && decide (entered.cash = 0)) = true := by
    decide +kernel
  rw [earlier] at outcome
  simp only [Except.toOption, Option.all_some] at outcome
  rw [exited] at outcome
  simp only [Option.all_some] at outcome
  rw [entry] at outcome
  simp only [Option.all_some, Bool.and_eq_true, Option.isNone_iff_eq_none,
    beq_iff_eq, Option.isSome_iff_exists, decide_eq_true_eq] at outcome
  obtain ⟨⟨free, one⟩, ⟨position, held⟩, spent⟩ := outcome
  have new : between.position ≠ some position := by
    rw [free]
    exact (Option.some_ne_none position).symm
  obtain ⟨positive, affordable, _⟩ := within position held new
  exact ⟨between, entered, position, free, one, held, positive, affordable, spent⟩

end Backtest

end DailySignals
