import DailySignals.Proofs.Backtest.Completion

/-!
# Trades follow one another

Where no two trading days share a date, a position that is left was taken up on
an earlier day, so trades take time and do not overlap.  The invariant
(`Portfolio.Orderly`) speaks of the dates that are done; the strict order of the
days makes every one of them earlier than the next day.
-/

set_option autoImplicit false

namespace DailySignals

variable {α : Type}

namespace Portfolio

/-- An account that dealt on some dates only, in one trade after another. -/
structure Orderly (dates : List Date) (portfolio : Portfolio α) : Prop where
  trade_dates : ∀ trade ∈ portfolio.trades, trade.entryDate ∈ dates ∧ trade.exitDate ∈ dates
  trade_span : ∀ trade ∈ portfolio.trades, trade.entryDate < trade.exitDate ∧
    trade.holdDays = trade.exitDate.daysSince trade.entryDate
  trades_follow : portfolio.trades.Pairwise fun first second =>
    first.exitDate ≤ second.entryDate
  open_date : ∀ position, portfolio.position = some position → position.entryDate ∈ dates
  open_follows : ∀ position, portfolio.position = some position →
    ∀ trade ∈ portfolio.trades, trade.exitDate ≤ position.entryDate

variable {dates more : List Date} {portfolio : Portfolio α} {position : Position α}

theorem Orderly.widen (orderly : Orderly dates portfolio) (wider : dates ⊆ more) :
    Orderly more portfolio where
  trade_dates := fun trade member =>
    ⟨wider (orderly.trade_dates trade member).1, wider (orderly.trade_dates trade member).2⟩
  trade_span := orderly.trade_span
  trades_follow := orderly.trades_follow
  open_date := fun position held => wider (orderly.open_date position held)
  open_follows := orderly.open_follows

theorem orderly_start (initial : α) : Orderly [] (start initial) where
  trade_dates := by simp [start]
  trade_span := by simp [start]
  trades_follow := List.Pairwise.nil
  open_date := by simp [start]
  open_follows := by simp [start]

variable [Arithmetic α]

/-- Leaving a position on a later date than all before it. -/
theorem Orderly.released (orderly : Orderly dates portfolio)
    (held : portfolio.position = some position) (trade : Trade α)
    (entry : trade.entryDate = position.entryDate) (dated : trade.exitDate ∈ dates)
    (later : position.entryDate < trade.exitDate)
    (days : trade.holdDays = trade.exitDate.daysSince trade.entryDate) :
    Orderly dates (portfolio.released position trade) where
  trade_dates := by
    intro other member
    rcases List.mem_append.mp member with earlier | new
    · exact orderly.trade_dates other earlier
    · rw [List.mem_singleton] at new
      subst new
      rw [entry]
      exact ⟨orderly.open_date position held, dated⟩
  trade_span := by
    intro other member
    rcases List.mem_append.mp member with earlier | new
    · exact orderly.trade_span other earlier
    · rw [List.mem_singleton] at new
      subst new
      exact ⟨entry ▸ later, days⟩
  trades_follow := by
    apply List.pairwise_append.mpr
    refine ⟨orderly.trades_follow, List.pairwise_singleton _ _, ?_⟩
    intro earlier member new isNew
    rw [List.mem_singleton] at isNew
    subst isNew
    rw [entry]
    exact orderly.open_follows position held earlier member
  open_date := by
    intro other stillHeld
    cases stillHeld
  open_follows := by
    intro other stillHeld
    cases stillHeld

/-- Taking up a position on the last of the dates. -/
theorem Orderly.holding (orderly : Orderly dates portfolio)
    (dated : position.entryDate ∈ dates)
    (latest : ∀ date ∈ dates, date ≤ position.entryDate) :
    Orderly dates (portfolio.holding position) where
  trade_dates := orderly.trade_dates
  trade_span := orderly.trade_span
  trades_follow := orderly.trades_follow
  open_date := by
    intro other held
    cases held
    exact dated
  open_follows := by
    intro other held trade member
    cases held
    exact latest _ (orderly.trade_dates trade member).2

theorem Orderly.marked (orderly : Orderly dates portfolio) (date : Date) (close : α) :
    Orderly dates (portfolio.markToMarket date close) where
  trade_dates := orderly.trade_dates
  trade_span := orderly.trade_span
  trades_follow := orderly.trades_follow
  open_date := orderly.open_date
  open_follows := orderly.open_follows

end Portfolio

namespace Backtest

open Portfolio

variable [Arithmetic α] {strategy : Strategy α} {registry : Registry α}
  {series : PriceSeries α} {day : TradingDay α} {dates : List Date}
  {portfolio after : Portfolio α}

theorem ExitOutcome.orderly (outcome : ExitOutcome strategy registry series day portfolio after)
    (aligned : day.Aligned) (orderly : Orderly dates portfolio)
    (later : ∀ date ∈ dates, date < day.date) : Orderly (dates ++ [day.date]) after := by
  have wider : Orderly (dates ++ [day.date]) portfolio :=
    orderly.widen (List.subset_append_left _ _)
  cases outcome with
  | flat => exact wider
  | kept => exact wider
  | @closed position reason held leaves =>
      apply wider.released held _ rfl
      · rw [closingTrade, aligned]
        simp
      · rw [closingTrade, aligned]
        exact later _ (orderly.open_date position held)
      · rfl

theorem EntryOutcome.orderly {dayStart : α}
    (outcome : EntryOutcome strategy registry series day dayStart portfolio after)
    (aligned : day.Aligned) (orderly : Orderly dates portfolio) (dated : day.date ∈ dates)
    (latest : ∀ date ∈ dates, date ≤ day.date) : Orderly dates after := by
  cases outcome with
  | occupied => exact orderly
  | blocked => exact orderly
  | quiet => exact orderly
  | unfilled => exact orderly
  | opened free allowed signalled bought =>
      obtain ⟨_, _, rfl⟩ := newPosition?_eq_some.mp bought
      rw [Position.opened, aligned]
      exact orderly.holding dated latest

/-- A day that is later than all before keeps the order of the trades. -/
theorem dayStep_orderly (aligned : day.Aligned) (orderly : Orderly dates portfolio)
    (later : ∀ date ∈ dates, date < day.date)
    (success : dayStep strategy registry series portfolio day = .ok after) :
    Orderly (dates ++ [day.date]) after := by
  obtain ⟨afterExit, afterEntry, exited, entered, rfl⟩ := dayStep_eq_ok.mp success
  have left : Orderly (dates ++ [day.date]) afterExit := exited.orderly aligned orderly later
  have latest : ∀ date ∈ dates ++ [day.date], date ≤ day.date := by
    intro date member
    rcases List.mem_append.mp member with earlier | now
    · exact Int.le_of_lt (later date earlier)
    · rw [List.mem_singleton] at now
      rw [now]
      exact Int.le_refl _
  exact (entered.orderly aligned left (by simp) latest).marked _ _

theorem simulate_orderly {initial : α} {days : List (TradingDay α)} {final : Portfolio α}
    (aligned : ∀ day ∈ days, day.Aligned) (increasing : Increasing days)
    (success : simulate strategy registry series (Portfolio.start initial) days = .ok final) :
    Orderly (days.map TradingDay.date) final := by
  apply simulate_invariant (fun done account => Orderly (done.map TradingDay.date) account)
    (orderly_start initial) ?_ success
  intro done day before after upTo orderly step
  have dayThere : day ∈ days := upTo.subset (by simp)
  have inOrder := List.pairwise_append.mp (increasing.sublist upTo.sublist)
  rw [List.map_append, List.map_singleton]
  apply dayStep_orderly (aligned day dayThere) orderly ?_ step
  intro date member
  obtain ⟨earlier, isDone, rfl⟩ := List.mem_map.mp member
  exact inOrder.2.2 earlier isDone day (by simp)

/-- The dates on which a run took up positions; an open position comes last. -/
def entryDates (result : Backtest α) : List Date :=
  result.trades.map (·.entryDate) ++ result.openPosition.toList.map (·.entryDate)

/-- The dates on which a run left positions. -/
def exitDates (result : Backtest α) : List Date :=
  result.trades.map (·.exitDate)

/-- Entries and exits of an orderly account fall on its dates, no two entries on
one of them and no two exits. -/
theorem orderly_dates (initial : α) (orderly : Orderly dates portfolio) :
    (∀ date ∈ (ofPortfolio portfolio initial).entryDates ++
        (ofPortfolio portfolio initial).exitDates, date ∈ dates) ∧
      (ofPortfolio portfolio initial).entryDates.Pairwise (· < ·) ∧
      (ofPortfolio portfolio initial).exitDates.Pairwise (· < ·) := by
  refine ⟨?_, ?_, ?_⟩
  · intro date member
    simp only [entryDates, exitDates, ofPortfolio, List.mem_append, List.mem_map,
      Option.mem_toList] at member
    rcases member with (⟨trade, traded, rfl⟩ | ⟨position, held, rfl⟩) | ⟨trade, traded, rfl⟩
    · exact (orderly.trade_dates trade traded).1
    · exact orderly.open_date position held
    · exact (orderly.trade_dates trade traded).2
  · apply List.pairwise_append.mpr
    refine ⟨?_, ?_, ?_⟩
    · rw [List.pairwise_map]
      apply List.Pairwise.imp_of_mem ?_ orderly.trades_follow
      intro first second firstTraded _ follows
      exact Int.lt_of_lt_of_le (orderly.trade_span first firstTraded).1 follows
    · cases held : (ofPortfolio portfolio initial).openPosition with
      | none => exact List.Pairwise.nil
      | some position => exact List.pairwise_singleton _ _
    · intro entry isEntry opened isOpened
      obtain ⟨trade, traded, rfl⟩ := List.mem_map.mp isEntry
      obtain ⟨position, held, rfl⟩ := List.mem_map.mp isOpened
      exact Int.lt_of_lt_of_le (orderly.trade_span trade traded).1
        (orderly.open_follows position (Option.mem_toList.mp held) trade traded)
  · rw [exitDates, List.pairwise_map]
    apply List.Pairwise.imp_of_mem ?_ orderly.trades_follow
    intro first second _ secondTraded follows
    exact Int.lt_of_le_of_lt follows (orderly.trade_span second secondTraded).1

/-- Over a history without two snapshots of one date, a run has one equity point
for each traded snapshot, dated in strict order; its trades take time, do not
overlap and are followed by the open position; and every entry and exit falls on
a date of the curve, no two entries and no two exits on one of them. -/
theorem run_lifecycle (strategy : Strategy α) (period : Period α)
    (history : List (Snapshot α)) (series : PriceSeries α) (registry : Registry α)
    (strategyValid : strategy.validate = .ok ()) (periodValid : period.validate = .ok ())
    (distinct : (history.map (·.date)).Nodup) :
    ∃ result, run strategy period history series registry = .ok result ∧
      (result.curve.map (·.date)).Perm
        ((history.filter (isTraded period series)).map (·.date)) ∧
      result.curve.Pairwise (fun first second => first.date < second.date) ∧
      (∀ trade ∈ result.trades, trade.entryDate < trade.exitDate ∧
        trade.holdDays = trade.exitDate.daysSince trade.entryDate) ∧
      result.trades.Pairwise (fun first second => first.exitDate ≤ second.entryDate) ∧
      (∀ position, result.openPosition = some position →
        ∀ trade ∈ result.trades, trade.exitDate ≤ position.entryDate) ∧
      (∀ date ∈ result.entryDates ++ result.exitDates,
        date ∈ result.curve.map (·.date)) ∧
      result.entryDates.Nodup ∧ result.exitDates.Nodup := by
  obtain ⟨final, simulated, success⟩ :=
    run_complete strategyValid periodValid history series registry
  have increasing : Increasing (tradingDays period history series) :=
    tradingDays_increasing_iff.mpr ((List.filter_sublist.map _).nodup distinct)
  have orderly := simulate_orderly (fun _ => aligned_of_mem) increasing simulated
  have dates : final.curve.map (·.date) =
      (tradingDays period history series).map TradingDay.date :=
    simulate_curve_dates simulated
  obtain ⟨onDates, entries, exits⟩ := orderly_dates period.equity orderly
  refine ⟨ofPortfolio final period.equity, success, ?_, ?_, orderly.trade_span,
    orderly.trades_follow, orderly.open_follows, ?_, entries.imp Date.ne_of_lt,
    exits.imp Date.ne_of_lt⟩
  · change (final.curve.map (·.date)).Perm _
    rw [dates]
    exact tradingDays_dates_perm
  · exact (simulate_curve_increasing_iff simulated).mpr increasing
  · intro date member
    change date ∈ final.curve.map (·.date)
    rw [dates]
    exact onDates date member

/-- The sample run leaves and enters on its second day, and leaves on its last. -/
theorem run_lifecycle_reentry :
    Sample.strategy.validate = .ok () ∧ Sample.period.validate = .ok () ∧
      (Sample.history.map (·.date)).Nodup ∧
      ∃ result, run Sample.strategy Sample.period Sample.history Sample.series
          Registry.builtin = .ok result ∧
        result.entryDates = [Sample.firstDay, Sample.secondDay] ∧
        result.exitDates = [Sample.secondDay, Sample.thirdDay] ∧
        result.curve.Pairwise (fun first second => first.date < second.date) ∧
        result.trades.Pairwise fun first second => first.exitDate ≤ second.entryDate := by
  have distinct : (Sample.history.map (·.date)).Nodup := by decide
  refine ⟨Sample.strategy_valid, Sample.period_valid, distinct, ?_⟩
  obtain ⟨result, success, _, increasing, _, follow, _⟩ := run_lifecycle Sample.strategy
    Sample.period Sample.history Sample.series Registry.builtin Sample.strategy_valid
    Sample.period_valid distinct
  obtain ⟨_, _, final, simulated, rfl⟩ := run_eq_ok.mp success
  have outcome : ((simulate Sample.strategy Registry.builtin Sample.series
      (Portfolio.start Sample.period.equity) Sample.days).toOption.all fun account =>
        (ofPortfolio account Sample.period.equity).entryDates ==
            [Sample.firstDay, Sample.secondDay] &&
          (ofPortfolio account Sample.period.equity).exitDates ==
            [Sample.secondDay, Sample.thirdDay]) = true := by
    decide +kernel
  rw [← Sample.tradingDays_eq, simulated] at outcome
  simp only [Except.toOption, Option.all_some, Bool.and_eq_true, beq_iff_eq] at outcome
  exact ⟨_, success, outcome.1, outcome.2, increasing, follow⟩

end Backtest

end DailySignals
