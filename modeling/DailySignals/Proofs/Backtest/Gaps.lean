import Mathlib.Data.List.Basic
import DailySignals.Proofs.Backtest.Causality

/-!
# Gaps have no effect

A run looks at its rows and bars date by date (`rowsOn`).  Of the rows it takes
those of the period whose date has a bar, and of the bars those of such a date
and of the calendar day after it.  So it is known from these rows and bars, each
date's in their order, and all others may come, go or change.  In particular a
date without a bar is passed over: nothing is valued on it, and no bar of
another date stands in for its own.
-/

set_option autoImplicit false

namespace DailySignals

variable {α : Type}

theorem PriceBar.rowsOn_inDateOrder (date : Date) (bars : List (PriceBar α)) :
    rowsOn PriceBar.date date (PriceBar.inDateOrder bars) = rowsOn PriceBar.date date bars :=
  rowsOn_mergeSort PriceBar.date date bars

namespace PriceSeries

/-- The bar that counts on a date is the last one delivered for it. -/
theorem get?_ofBars (bars : List (PriceBar α)) (date : Date) :
    (ofBars bars).get? date = (rowsOn PriceBar.date date bars).getLast? := by
  rw [← PriceBar.rowsOn_inDateOrder, rowsOn, List.getLast?_filter]
  rfl

/-- Of bars that are kept by their date, that of a date that is kept counts as before. -/
theorem get?_ofBars_filter (keeps : Date → Bool) {date : Date} (kept : keeps date = true)
    (bars : List (PriceBar α)) :
    (ofBars (bars.filter fun bar => keeps bar.date)).get? date = (ofBars bars).get? date := by
  rw [get?_ofBars, get?_ofBars, rowsOn_filter PriceBar.date keeps kept]

theorem get?_congr_of_filter {keeps : Date → Bool} {date : Date} (kept : keeps date = true)
    {bars bars' : List (PriceBar α)}
    (same : (bars.filter fun bar => keeps bar.date) = bars'.filter fun bar => keeps bar.date) :
    (ofBars bars).get? date = (ofBars bars').get? date := by
  rw [← get?_ofBars_filter keeps kept bars, same, get?_ofBars_filter keeps kept]

/-- A price that a date has of its own: the close of its bar, or a price of the
bar of the calendar day after it. -/
def OwnPrice (series : PriceSeries α) (date : Date) (price : α) : Prop :=
  (∃ bar, series.get? date = some bar ∧ bar.date = date ∧ price = bar.close) ∨
    ∃ next, series.nextDay? date = some next ∧ next.date.day = date.day + 1 ∧
      (price = next.opening ∨ price = next.close)

theorem date_of_nextDay? {series : PriceSeries α} {date : Date} {bar : PriceBar α}
    (found : series.nextDay? date = some bar) : bar.date.day = date.day + 1 := by
  obtain ⟨next, reached, there⟩ := Option.bind_eq_some_iff.mp found
  rw [date_of_get? there]
  exact Date.day_of_addDays? reached

theorem ownPrice_of_nextPrice? {series : PriceSeries α} {mode : FillMode} {date : Date}
    {price : α} (found : series.nextPrice? mode date = some price) :
    series.OwnPrice date price := by
  cases mode with
  | currentClose => cases found
  | nextOpen =>
      obtain ⟨next, there, rfl⟩ := Option.map_eq_some_iff.mp found
      exact .inr ⟨next, there, date_of_nextDay? there, .inl rfl⟩
  | nextClose =>
      obtain ⟨next, there, rfl⟩ := Option.map_eq_some_iff.mp found
      exact .inr ⟨next, there, date_of_nextDay? there, .inr rfl⟩

variable [Arithmetic α]

theorem ownPrice_fillPrice {series : PriceSeries α} {date : Date} {bar : PriceBar α}
    (found : series.get? date = some bar) (mode : FillMode) :
    series.OwnPrice date (series.fillPrice mode date bar.close) := by
  have atClose : series.OwnPrice date bar.close := .inl ⟨bar, found, date_of_get? found, rfl⟩
  rw [fillPrice]
  cases asked : series.nextPrice? mode date with
  | none => exact atClose
  | some price =>
      simp only
      split
      · exact ownPrice_of_nextPrice? asked
      · exact atClose

end PriceSeries

namespace Backtest

/-! ## What a run reads -/

section Reads

variable {period : Period α} {history history' : List (Snapshot α)}
  {series series' : PriceSeries α}

theorem tradingDays_congr_rows
    (sameRows : ∀ date bar, tradedBar? period series date = some bar →
      rowsOn Snapshot.date date history = rowsOn Snapshot.date date history') :
    tradingDays period history series = tradingDays period history' series := by
  apply eq_of_rowsOn TradingDay.date _ _ tradingDays_ordered tradingDays_ordered
  intro date
  rw [rowsOn_tradingDays, rowsOn_tradingDays]
  cases traded : tradedBar? period series date with
  | some bar => rw [sameRows date bar traded]
  | none =>
      -- a date that is not simulated has no trading days, whatever its rows
      have none_there : ∀ rows : List (Snapshot α), (rows.filterMap fun snapshot =>
          (none : Option (PriceBar α)).map fun bar => TradingDay.mk snapshot bar) = [] :=
        fun _ => List.filterMap_eq_nil_iff.mpr fun _ _ => rfl
      exact (none_there _).trans (none_there _).symm

theorem tradingDays_congr_bars
    (sameBars : ∀ row ∈ history, period.contains row.date = true →
      series.get? row.date = series'.get? row.date) :
    tradingDays period history series = tradingDays period history series' := by
  unfold tradingDays
  apply List.filterMap_congr
  intro row member
  split
  · rename_i inside
    rw [sameBars row (List.mem_mergeSort.mp member) inside]
  · rfl

theorem isTraded_ofBars {bars : List (PriceBar α)} (row : Snapshot α) :
    isTraded period (.ofBars bars) row =
      (period.contains row.date && (rowsOn PriceBar.date row.date bars).getLast?.isSome) := by
  rw [isTraded, PriceSeries.get?_ofBars]

/-- Filtering out rows that are not traded leaves those of a traded date. -/
theorem rowsOn_filter_traded {date : Date} {bar : PriceBar α}
    (traded : tradedBar? period series date = some bar) (rows : List (Snapshot α)) :
    rowsOn Snapshot.date date (rows.filter (isTraded period series)) =
      rowsOn Snapshot.date date rows := by
  have kept : (period.contains date && (series.get? date).isSome) = true := by
    rw [tradedBar?] at traded
    split at traded
    · rename_i inside
      rw [inside, traded]
      rfl
    · cases traded
  exact rowsOn_filter Snapshot.date
    (fun date => period.contains date && (series.get? date).isSome) kept rows

/-- Whether a run looks at the bars of a date: it is the date of a row of the
period or the calendar day after one. -/
def consults (period : Period α) (history : List (Snapshot α)) (date : Date) : Bool :=
  history.any fun row =>
    period.contains row.date && (row.date == date || row.date.addDays? 1 == some date)

theorem consults_date {row : Snapshot α} (member : row ∈ history)
    (inside : period.contains row.date = true) : consults period history row.date = true := by
  refine List.any_eq_true.mpr ⟨row, member, ?_⟩
  rw [inside, BEq.rfl, Bool.true_or, Bool.true_and]

theorem consults_next {row : Snapshot α} (member : row ∈ history)
    (inside : period.contains row.date = true) {next : Date}
    (reached : row.date.addDays? 1 = some next) : consults period history next = true := by
  refine List.any_eq_true.mpr ⟨row, member, ?_⟩
  rw [inside, reached, BEq.rfl, Bool.or_true, Bool.true_and]

variable [Arithmetic α] {strategy : Strategy α} {registry : Registry α}

theorem run_congr_rows
    (sameRows : ∀ date bar, tradedBar? period series date = some bar →
      rowsOn Snapshot.date date history = rowsOn Snapshot.date date history') :
    run strategy period history series registry =
      run strategy period history' series registry := by
  simp only [run, tradingDays_congr_rows sameRows]

/-- Series with the same bars on the dates of the rows of the period, and on the
day after each, give the same run. -/
theorem run_congr_bars
    (sameBars : ∀ row ∈ history, period.contains row.date = true →
      series.get? row.date = series'.get? row.date)
    (sameNext : ∀ row ∈ history, period.contains row.date = true →
      series.nextDay? row.date = series'.nextDay? row.date) :
    run strategy period history series registry =
      run strategy period history series' registry := by
  have sameDays := tradingDays_congr_bars sameBars
  have sameFills : ∀ day ∈ tradingDays period history series',
      series.fillPrice strategy.risk.fillMode day.bar.date day.bar.close =
        series'.fillPrice strategy.risk.fillMode day.bar.date day.bar.close := by
    intro day member
    obtain ⟨there, inside, _⟩ := mem_tradingDays.mp member
    have next : series.nextDay? day.date = series'.nextDay? day.date :=
      sameNext day.snapshot there inside
    rw [aligned_of_mem member]
    simp only [PriceSeries.fillPrice, PriceSeries.nextPrice?, next]
  simp only [run, sameDays, simulate_congr_of_fills sameFills]

/-- Data with the same rows and bars on every date of the period, and the same
bars on the day after each, give the same run. -/
theorem run_congr
    (sameRows : ∀ date, period.contains date = true →
      rowsOn Snapshot.date date history = rowsOn Snapshot.date date history')
    (sameBars : ∀ date, period.contains date = true → series.get? date = series'.get? date)
    (sameNext : ∀ date, period.contains date = true →
      series.nextDay? date = series'.nextDay? date) :
    run strategy period history series registry =
      run strategy period history' series' registry := by
  have rows : run strategy period history series registry =
      run strategy period history' series registry := by
    apply run_congr_rows
    intro date bar traded
    rw [tradedBar?] at traded
    split at traded
    · rename_i inside
      exact sameRows date inside
    · cases traded
  have bars : run strategy period history' series registry =
      run strategy period history' series' registry :=
    run_congr_bars (fun row _ inside => sameBars row.date inside)
      fun row _ inside => sameNext row.date inside
  exact rows.trans bars

end Reads

end Backtest

/-! ## Prices of a run -/

namespace Portfolio

/-- An account that dealt at prices of the dates on which it dealt. -/
structure OwnPriced (series : PriceSeries α) (portfolio : Portfolio α) : Prop where
  entries : ∀ trade ∈ portfolio.trades, series.OwnPrice trade.entryDate trade.entryPrice
  exits : ∀ trade ∈ portfolio.trades, series.OwnPrice trade.exitDate trade.exitPrice
  held : ∀ position, portfolio.position = some position →
    series.OwnPrice position.entryDate position.entryPrice

variable {series : PriceSeries α} {portfolio : Portfolio α} {position : Position α}

theorem ownPriced_start (initial : α) : OwnPriced series (start initial) where
  entries := by simp [start]
  exits := by simp [start]
  held := by simp [start]

variable [Arithmetic α]

theorem OwnPriced.released (priced : OwnPriced series portfolio)
    (held : portfolio.position = some position) {trade : Trade α}
    (entryDate : trade.entryDate = position.entryDate)
    (entryPrice : trade.entryPrice = position.entryPrice)
    (exit : series.OwnPrice trade.exitDate trade.exitPrice) :
    OwnPriced series (portfolio.released position trade) where
  entries := by
    intro other member
    rcases List.mem_append.mp member with earlier | new
    · exact priced.entries other earlier
    · rw [List.mem_singleton] at new
      subst new
      rw [entryDate, entryPrice]
      exact priced.held position held
  exits := by
    intro other member
    rcases List.mem_append.mp member with earlier | new
    · exact priced.exits other earlier
    · rw [List.mem_singleton] at new
      subst new
      exact exit
  held := by
    intro other stillHeld
    cases stillHeld

theorem OwnPriced.holding (priced : OwnPriced series portfolio)
    (entry : series.OwnPrice position.entryDate position.entryPrice) :
    OwnPriced series (portfolio.holding position) where
  entries := priced.entries
  exits := priced.exits
  held := by
    intro other held
    cases held
    exact entry

end Portfolio

namespace Backtest

open Portfolio

variable [Arithmetic α] {strategy : Strategy α} {registry : Registry α}
  {series : PriceSeries α} {day : TradingDay α} {portfolio after : Portfolio α}

theorem ExitOutcome.ownPriced
    (outcome : ExitOutcome strategy registry series day portfolio after)
    (aligned : day.Aligned) (found : series.get? day.date = some day.bar)
    (priced : OwnPriced series portfolio) : OwnPriced series after := by
  cases outcome with
  | flat => exact priced
  | kept => exact priced
  | @closed position reason held leaves =>
      apply priced.released held rfl rfl
      rw [closingTrade, aligned]
      exact PriceSeries.ownPrice_fillPrice found _

theorem EntryOutcome.ownPriced {dayStart : α}
    (outcome : EntryOutcome strategy registry series day dayStart portfolio after)
    (aligned : day.Aligned) (found : series.get? day.date = some day.bar)
    (priced : OwnPriced series portfolio) : OwnPriced series after := by
  cases outcome with
  | occupied => exact priced
  | blocked => exact priced
  | quiet => exact priced
  | unfilled => exact priced
  | opened free allowed signalled bought =>
      obtain ⟨_, _, rfl⟩ := newPosition?_eq_some.mp bought
      apply priced.holding
      rw [Position.opened, aligned]
      exact PriceSeries.ownPrice_fillPrice found _

/-- A run over days with the bars of their dates deals at prices of these dates. -/
theorem simulate_ownPriced {initial : α} {days : List (TradingDay α)} {final : Portfolio α}
    (found : ∀ day ∈ days, series.get? day.date = some day.bar)
    (success : simulate strategy registry series (Portfolio.start initial) days = .ok final) :
    OwnPriced series final := by
  apply simulate_invariant (fun _ account => OwnPriced series account)
    (ownPriced_start initial) ?_ success
  intro done day before after upTo priced step
  obtain ⟨afterExit, afterEntry, exited, entered, rfl⟩ := dayStep_eq_ok.mp step
  have there := found day (upTo.subset (by simp))
  have aligned : day.Aligned := PriceSeries.date_of_get? there
  have left := entered.ownPriced aligned there (exited.ownPriced aligned there priced)
  exact ⟨left.entries, left.exits, left.held⟩

/-- A day is valued at the close of its bar. -/
theorem dayStep_equity (success : dayStep strategy registry series portfolio day = .ok after) :
    after.equity = after.cash + after.heldValue day.bar.close := by
  obtain ⟨afterExit, afterEntry, _, _, rfl⟩ := dayStep_eq_ok.mp success
  rfl

/-- A run does not notice rows out of its period or without a bar of their date,
nor bars on other dates than those of the rows of its period and the days after
them: it has one equity point for each row of the period that has a bar, values
the account at the close of the bar of that very date, and deals at the close of
that bar or a price of the bar of the next calendar day. -/
theorem run_passes_gaps (strategy : Strategy α) (period : Period α)
    (history : List (Snapshot α)) (bars : List (PriceBar α)) (registry : Registry α)
    (strategyValid : strategy.validate = .ok ()) (periodValid : period.validate = .ok ()) :
    ∃ result, run strategy period history (.ofBars bars) registry = .ok result ∧
      (∀ history', history'.filter (isTraded period (.ofBars bars)) =
          history.filter (isTraded period (.ofBars bars)) →
        run strategy period history' (.ofBars bars) registry = .ok result) ∧
      (∀ bars', (bars'.filter fun bar => consults period history bar.date) =
          bars.filter (fun bar => consults period history bar.date) →
        run strategy period history (.ofBars bars') registry = .ok result) ∧
      result.curve.map (·.date) =
        ((Snapshot.inDateOrder history).filter (isTraded period (.ofBars bars))).map (·.date) ∧
      (∀ index point, result.curve[index]? = some point →
        ∃ bar account,
          (PriceSeries.ofBars bars).get? point.date = some bar ∧ bar.date = point.date ∧
          simulate strategy registry (.ofBars bars) (Portfolio.start period.equity)
            ((tradingDays period history (.ofBars bars)).take (index + 1)) = .ok account ∧
          point.equity = account.cash + account.heldValue bar.close) ∧
      (∀ trade ∈ result.trades,
        (PriceSeries.ofBars bars).OwnPrice trade.entryDate trade.entryPrice ∧
          (PriceSeries.ofBars bars).OwnPrice trade.exitDate trade.exitPrice) ∧
      ∀ position, result.openPosition = some position →
        (PriceSeries.ofBars bars).OwnPrice position.entryDate position.entryPrice := by
  obtain ⟨final, simulated, success⟩ :=
    run_complete strategyValid periodValid history (.ofBars bars) registry
  have priced := simulate_ownPriced (fun _ member => (mem_tradingDays.mp member).2.2) simulated
  refine ⟨ofPortfolio final period.equity, success, ?_, ?_,
    (simulate_curve_dates simulated).trans tradingDays_dates, ?_,
    fun trade member => ⟨priced.entries trade member, priced.exits trade member⟩, priced.held⟩
  · -- a date that is simulated keeps its rows, in their order
    intro history' sameTraded
    rw [← success]
    apply run_congr_rows
    intro date bar traded
    rw [← rowsOn_filter_traded traded history', sameTraded, rowsOn_filter_traded traded]
  · intro bars' sameConsulted
    rw [← success]
    symm
    apply run_congr_bars
    · intro row member inside
      exact PriceSeries.get?_congr_of_filter (consults_date member inside) sameConsulted.symm
    · intro row member inside
      rw [PriceSeries.nextDay?, PriceSeries.nextDay?]
      cases reached : row.date.addDays? 1 with
      | none => rfl
      | some next =>
          exact PriceSeries.get?_congr_of_filter (consults_next member inside reached)
            sameConsulted.symm
  · -- the account of a point is that of the days up to its own, the last of them valued
    intro index point recorded
    have inside : index < (tradingDays period history (.ofBars bars)).length := by
      rw [← simulate_curve_length simulated]
      exact (List.getElem?_eq_some_iff.mp recorded).1
    have found := List.getElem?_eq_getElem inside
    obtain ⟨_, account, _, step, reached, _, entered⟩ := simulate_day simulated found
    have same : (⟨TradingDay.date _, account.equity⟩ : EquityPoint α) = point :=
      Option.some.inj (entered.symm.trans recorded)
    subst same
    have there := (mem_tradingDays.mp (List.mem_of_getElem? found)).2.2
    exact ⟨_, account, there, PriceSeries.date_of_get? there, reached, dayStep_equity step⟩

end Backtest

namespace Sample

def distantDay : Date := { day := 40 }

/-- The sample prices without the second day. -/
def gappedBars : List (PriceBar Rat) :=
  [bar firstDay 100, bar thirdDay 121]

/-- The sample history with a row out of the period in place of that of the second day. -/
def strayHistory : List (Snapshot Rat) :=
  [snapshot firstDay 1, snapshot distantDay 2, snapshot thirdDay 4]

end Sample

namespace Backtest

/-- The gap on the second day of the sample is passed over, whether it has a row or not. -/
theorem run_passes_gaps_sample :
    Sample.strategy.validate = .ok () ∧ Sample.period.validate = .ok () ∧
      ∃ result,
        run Sample.strategy Sample.period Sample.history (.ofBars Sample.gappedBars)
          Registry.builtin = .ok result ∧
        run Sample.strategy Sample.period Sample.strayHistory (.ofBars Sample.gappedBars)
          Registry.builtin = .ok result ∧
        run Sample.strategy Sample.period Sample.history
          (.ofBars (Sample.bar Sample.distantDay 500 :: Sample.gappedBars))
          Registry.builtin = .ok result ∧
        result.curve.map (·.date) = [Sample.firstDay, Sample.thirdDay] := by
  refine ⟨Sample.strategy_valid, Sample.period_valid, ?_⟩
  obtain ⟨result, success, rows, bars, dates, _⟩ := run_passes_gaps Sample.strategy
    Sample.period Sample.history Sample.gappedBars Registry.builtin Sample.strategy_valid
    Sample.period_valid
  rw [Sample.history_inDateOrder] at dates
  simp only [funext isTraded_ofBars] at rows dates
  exact ⟨result, success, rows _ rfl, bars _ rfl, dates⟩

end Backtest

end DailySignals
