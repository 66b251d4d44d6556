import DailySignals.Outcome
import DailySignals.Trading.Backtest

/-!
# What one day does to the account

A day leaves a position or keeps it, then takes up a new one or does not, and
then values the account.  The two steps are stated here as relations with one
case for each way they can go, and `dayStep` succeeds exactly along these.
Whatever is true of a run is proved of these cases and carried along the days.
-/

set_option autoImplicit false

namespace DailySignals

variable {α : Type} [Arithmetic α]

namespace Portfolio

/-- The account with a position taken up. -/
def holding (portfolio : Portfolio α) (position : Position α) : Portfolio α :=
  { portfolio with
    cash := portfolio.cash - position.costBasis
    position := some position }

/-- The account after a trade has closed a position. -/
def released (portfolio : Portfolio α) (position : Position α) (trade : Trade α) :
    Portfolio α :=
  { portfolio with
    cash := portfolio.cash + (position.costBasis + trade.profit)
    equity := portfolio.cash + (position.costBasis + trade.profit)
    position := none
    lastExit := some trade.exitDate
    trades := portfolio.trades ++ [trade] }

theorem opening?_of_flat {portfolio : Portfolio α} (flat : portfolio.position = none)
    (position : Position α) : portfolio.opening? position = some (portfolio.holding position) := by
  simp only [opening?, flat, holding]

theorem closing?_of_held {portfolio : Portfolio α} {position : Position α}
    (held : portfolio.position = some position) (trade : Trade α) :
    portfolio.closing? trade = some (position, portfolio.released position trade) := by
  simp only [closing?, held, released]

end Portfolio

namespace Backtest

variable (strategy : Strategy α) (registry : Registry α) (series : PriceSeries α)
  (day : TradingDay α)

/-- The ways in which the exit step of a day can go. -/
inductive ExitOutcome (portfolio : Portfolio α) : Portfolio α → Prop where
  | flat (free : portfolio.position = none) : ExitOutcome portfolio portfolio
  | kept {position : Position α} (held : portfolio.position = some position)
      (stays : exitReason? strategy registry day position = .ok none) :
      ExitOutcome portfolio portfolio
  | closed {position : Position α} {reason : ExitReason}
      (held : portfolio.position = some position)
      (leaves : exitReason? strategy registry day position = .ok (some reason)) :
      ExitOutcome portfolio
        (portfolio.released position
          (closingTrade strategy series day.bar position reason))

/-- The ways in which the entry step of a day can go. -/
inductive EntryOutcome (dayStart : α) (portfolio : Portfolio α) : Portfolio α → Prop where
  | occupied {position : Position α} (held : portfolio.position = some position) :
      EntryOutcome dayStart portfolio portfolio
  | blocked (free : portfolio.position = none)
      (barred : entryBlocked strategy.risk portfolio day.snapshot.date dayStart = true) :
      EntryOutcome dayStart portfolio portfolio
  | quiet (free : portfolio.position = none)
      (allowed : entryBlocked strategy.risk portfolio day.snapshot.date dayStart = false)
      (silent : strategy.entrySignal registry day.snapshot = .ok false) :
      EntryOutcome dayStart portfolio portfolio
  | unfilled (free : portfolio.position = none)
      (allowed : entryBlocked strategy.risk portfolio day.snapshot.date dayStart = false)
      (signalled : strategy.entrySignal registry day.snapshot = .ok true)
      (nothing : newPosition? strategy series day.bar portfolio.equity = none) :
      EntryOutcome dayStart portfolio portfolio
  | opened {position : Position α} (free : portfolio.position = none)
      (allowed : entryBlocked strategy.risk portfolio day.snapshot.date dayStart = false)
      (signalled : strategy.entrySignal registry day.snapshot = .ok true)
      (bought : newPosition? strategy series day.bar portfolio.equity = some position) :
      EntryOutcome dayStart portfolio (portfolio.holding position)

variable {strategy registry series day} {portfolio after : Portfolio α}

/-- An order opens a position where there is something to buy and a price. -/
theorem newPosition?_eq_some {bar : PriceBar α} {equity : α} {position : Position α} :
    newPosition? strategy series bar equity = some position ↔
      0 < strategy.risk.orderNotional equity ∧
      0 < series.fillPrice strategy.risk.fillMode bar.date bar.close ∧
      position = Position.opened bar.date
        (series.fillPrice strategy.risk.fillMode bar.date bar.close)
        (strategy.risk.orderNotional equity /
          series.fillPrice strategy.risk.fillMode bar.date bar.close) := by
  simp only [newPosition?]
  split
  · rename_i funded
    simp only [Option.some.injEq, funded.1, funded.2, true_and]
    exact eq_comm
  · rename_i unfunded
    constructor
    · intro impossible
      cases impossible
    · rintro ⟨notional, price, _⟩
      exact absurd ⟨notional, price⟩ unfunded

theorem exitStep_eq_ok :
    exitStep strategy registry series day portfolio = .ok after ↔
      ExitOutcome strategy registry series day portfolio after := by
  constructor
  · intro success
    unfold exitStep at success
    cases held : portfolio.position with
    | none =>
        simp only [held, Except.ok.injEq] at success
        subst after
        exact .flat held
    | some position =>
        simp only [held] at success
        obtain ⟨decided, decision, success⟩ := bind_eq_ok.mp success
        cases decided with
        | none =>
            rw [pure_eq_ok] at success
            subst after
            exact .kept held decision
        | some reason =>
            simp only [Portfolio.closing?_of_held held, pure_eq_ok] at success
            subst after
            exact .closed held decision
  · intro outcome
    unfold exitStep
    cases outcome with
    | flat free => simp only [free]
    | kept held stays =>
        simp only [held]
        exact bind_eq_ok.mpr ⟨none, stays, rfl⟩
    | @closed position reason held leaves =>
        simp only [held]
        refine bind_eq_ok.mpr ⟨some reason, leaves, ?_⟩
        simp only [Portfolio.closing?_of_held held]
        rfl

theorem entryStep_eq_ok {dayStart : α} :
    entryStep strategy registry series day dayStart portfolio = .ok after ↔
      EntryOutcome strategy registry series day dayStart portfolio after := by
  constructor
  · intro success
    unfold entryStep at success
    cases held : portfolio.position with
    | some position =>
        simp only [Portfolio.hasPosition, held, Option.isSome_some, Bool.true_or, if_true,
          Except.ok.injEq] at success
        subst after
        exact .occupied held
    | none =>
        simp only [Portfolio.hasPosition, held, Option.isSome_none, Bool.false_or] at success
        cases barred : entryBlocked strategy.risk portfolio day.snapshot.date dayStart with
        | true =>
            simp only [barred, if_true, Except.ok.injEq] at success
            subst after
            exact .blocked held barred
        | false =>
            simp only [barred, Bool.false_eq_true, if_false] at success
            obtain ⟨signal, signalled, success⟩ := bind_eq_ok.mp success
            cases signal with
            | false =>
                simp only [Bool.false_eq_true, if_false, pure_eq_ok] at success
                subst after
                exact .quiet held barred signalled
            | true =>
                simp only [if_true, pure_eq_ok] at success
                subst after
                cases bought : newPosition? strategy series day.bar portfolio.equity with
                | none => exact .unfilled held barred signalled bought
                | some position =>
                    simp only [Option.bind_some, Portfolio.opening?_of_flat held,
                      Option.getD_some]
                    exact .opened held barred signalled bought
  · intro outcome
    unfold entryStep
    cases outcome with
    | occupied held =>
        simp only [Portfolio.hasPosition, held, Option.isSome_some, Bool.true_or, if_true]
    | blocked free barred => simp only [barred, Bool.or_true, if_true]
    | quiet free allowed silent =>
        simp only [Portfolio.hasPosition, free, allowed, Option.isSome_none, Bool.or_self,
          Bool.false_eq_true, if_false]
        exact bind_eq_ok.mpr ⟨false, silent, rfl⟩
    | unfilled free allowed signalled nothing =>
        simp only [Portfolio.hasPosition, free, allowed, Option.isSome_none, Bool.or_self,
          Bool.false_eq_true, if_false]
        refine bind_eq_ok.mpr ⟨true, signalled, ?_⟩
        simp only [nothing, Option.bind_none, Option.getD_none, if_true]
        rfl
    | opened free allowed signalled bought =>
        simp only [Portfolio.hasPosition, free, allowed, Option.isSome_none, Bool.or_self,
          Bool.false_eq_true, if_false]
        refine bind_eq_ok.mpr ⟨true, signalled, ?_⟩
        simp only [bought, Option.bind_some, Portfolio.opening?_of_flat free, Option.getD_some,
          if_true]
        rfl

/-- A day that succeeds is an exit step, an entry step and a valuation. -/
theorem dayStep_eq_ok :
    dayStep strategy registry series portfolio day = .ok after ↔
      ∃ afterExit afterEntry,
        ExitOutcome strategy registry series day portfolio afterExit ∧
        EntryOutcome strategy registry series day portfolio.equity afterExit afterEntry ∧
        afterEntry.markToMarket day.snapshot.date day.bar.close = after := by
  unfold dayStep
  constructor
  · intro success
    obtain ⟨afterExit, exited, success⟩ := bind_eq_ok.mp success
    obtain ⟨afterEntry, entered, success⟩ := bind_eq_ok.mp success
    exact ⟨afterExit, afterEntry, exitStep_eq_ok.mp exited, entryStep_eq_ok.mp entered,
      pure_eq_ok.mp success⟩
  · rintro ⟨afterExit, afterEntry, exited, entered, rfl⟩
    refine bind_eq_ok.mpr ⟨afterExit, exitStep_eq_ok.mpr exited, ?_⟩
    exact bind_eq_ok.mpr ⟨afterEntry, entryStep_eq_ok.mpr entered, rfl⟩

/-! ## What the steps leave alone -/

theorem ExitOutcome.curve_eq (outcome : ExitOutcome strategy registry series day portfolio after) :
    after.curve = portfolio.curve := by
  cases outcome <;> rfl

theorem ExitOutcome.trades_eq
    (outcome : ExitOutcome strategy registry series day portfolio after) :
    after.trades = portfolio.trades ∨
      ∃ position reason, after.trades =
        portfolio.trades ++ [closingTrade strategy series day.bar position reason] := by
  cases outcome with
  | flat => exact .inl rfl
  | kept => exact .inl rfl
  | @closed position reason => exact .inr ⟨position, reason, rfl⟩

theorem EntryOutcome.curve_eq {dayStart : α}
    (outcome : EntryOutcome strategy registry series day dayStart portfolio after) :
    after.curve = portfolio.curve := by
  cases outcome <;> rfl

theorem EntryOutcome.trades_eq {dayStart : α}
    (outcome : EntryOutcome strategy registry series day dayStart portfolio after) :
    after.trades = portfolio.trades := by
  cases outcome <;> rfl

/-- What is held after the entry step of a day was held before it or is of the day's bar. -/
theorem EntryOutcome.position_cases {dayStart : α}
    (outcome : EntryOutcome strategy registry series day dayStart portfolio after) :
    after.position = portfolio.position ∨
      portfolio.position = none ∧ ∃ next, after.position = some next ∧
        next.entryDate = day.bar.date := by
  cases outcome with
  | occupied => exact .inl rfl
  | blocked => exact .inl rfl
  | quiet => exact .inl rfl
  | unfilled => exact .inl rfl
  | opened free allowed signalled bought =>
      obtain ⟨_, _, rfl⟩ := newPosition?_eq_some.mp bought
      exact .inr ⟨free, _, rfl, rfl⟩

/-- A position that is held after the entry step of a day, and was not before it,
was ordered in it. -/
theorem EntryOutcome.ordered_of_new {dayStart : α} {position : Position α}
    (outcome : EntryOutcome strategy registry series day dayStart portfolio after)
    (held : after.position = some position) (new : portfolio.position ≠ some position) :
    portfolio.position = none ∧
      newPosition? strategy series day.bar portfolio.equity = some position ∧
      after = portfolio.holding position := by
  cases outcome with
  | occupied => exact absurd held new
  | blocked => exact absurd held new
  | quiet => exact absurd held new
  | unfilled => exact absurd held new
  | opened free allowed signalled bought =>
      cases held
      exact ⟨free, bought, rfl⟩

/-- A day adds one equity point, which is dated that day. -/
theorem dayStep_curve (success : dayStep strategy registry series portfolio day = .ok after) :
    after.curve = portfolio.curve ++ [⟨day.snapshot.date, after.equity⟩] := by
  obtain ⟨afterExit, afterEntry, exited, entered, rfl⟩ := dayStep_eq_ok.mp success
  simp only [Portfolio.markToMarket, Portfolio.recordEquity, entered.curve_eq, exited.curve_eq]

/-- A day adds at most one trade, which closes on that day. -/
theorem dayStep_trades (success : dayStep strategy registry series portfolio day = .ok after) :
    after.trades = portfolio.trades ∨
      ∃ position reason, after.trades =
        portfolio.trades ++ [closingTrade strategy series day.bar position reason] := by
  obtain ⟨afterExit, afterEntry, exited, entered, rfl⟩ := dayStep_eq_ok.mp success
  have unmarked : (afterEntry.markToMarket day.snapshot.date day.bar.close).trades =
      afterExit.trades := entered.trades_eq
  rw [unmarked]
  exact exited.trades_eq

end Backtest

end DailySignals
