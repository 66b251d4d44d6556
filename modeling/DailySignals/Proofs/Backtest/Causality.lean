import DailySignals.Proofs.Backtest.Completion

/-!
# Runs do not look ahead

What a run has done up to a date depends on nothing that came later, except for
the prices of one more calendar day where orders wait for it.  A day reads its
prices by `fillPrice` alone, so two runs over data that agree up to a date go
through the same days up to it and do the same on each.  The days that follow
only append to what is already there.
-/

set_option autoImplicit false

namespace DailySignals

variable {α : Type}

namespace FillMode

/-- The last calendar day whose prices fills up to a date may read. -/
def reach (mode : FillMode) (date : Date) : Int :=
  match mode with
  | .currentClose => date.day
  | .nextOpen => date.day + 1
  | .nextClose => date.day + 1

theorem reach_mono (mode : FillMode) {earlier later : Date} (before : earlier ≤ later) :
    mode.reach earlier ≤ mode.reach later := by
  rw [Date.le_iff] at before
  cases mode <;> simp only [reach] <;> omega

theorem day_le_reach (mode : FillMode) (date : Date) : date.day ≤ mode.reach date := by
  cases mode <;> simp only [reach] <;> omega

end FillMode

/-- Histories that give every date up to one the same snapshots in the same
order. -/
def SameHistory (last : Date) (first second : List (Snapshot α)) : Prop :=
  ∀ date ≤ last, rowsOn Snapshot.date date first = rowsOn Snapshot.date date second

/-- Series that give every calendar day up to one the same bar. -/
def SamePrices (last : Int) (first second : PriceSeries α) : Prop :=
  ∀ date : Date, date.day ≤ last → first.get? date = second.get? date

namespace SamePrices

variable {last : Int} {first second : PriceSeries α}

theorem mono {earlier : Int} (same : SamePrices last first second) (before : earlier ≤ last) :
    SamePrices earlier first second :=
  fun date inside => same date (Int.le_trans inside before)

theorem nextDay?_eq {date : Date} (same : SamePrices (date.day + 1) first second) :
    first.nextDay? date = second.nextDay? date := by
  rw [PriceSeries.nextDay?, PriceSeries.nextDay?]
  cases reached : date.addDays? 1 with
  | none => rfl
  | some next =>
      have nextDay : next.day = date.day + 1 := Date.day_of_addDays? reached
      exact same next (Int.le_of_eq nextDay)

theorem fillPrice_eq [Arithmetic α] {mode : FillMode} {date : Date}
    (same : SamePrices (mode.reach date) first second) (close : α) :
    first.fillPrice mode date close = second.fillPrice mode date close := by
  have samePrice : first.nextPrice? mode date = second.nextPrice? mode date := by
    cases mode with
    | currentClose => rfl
    | nextOpen => simp only [PriceSeries.nextPrice?, nextDay?_eq same]
    | nextClose => simp only [PriceSeries.nextPrice?, nextDay?_eq same]
  rw [PriceSeries.fillPrice, PriceSeries.fillPrice, samePrice]

end SamePrices

namespace Backtest

/-! ## The days up to a date -/

section Days

variable {period : Period α} {history : List (Snapshot α)} {series : PriceSeries α}

/-- The bar of a date that is simulated. -/
def tradedBar? (period : Period α) (series : PriceSeries α) (date : Date) :
    Option (PriceBar α) :=
  if period.contains date then series.get? date else none

/-- The trading days of a date are its snapshots, each with the bar of the date. -/
theorem rowsOn_tradingDays (date : Date) :
    rowsOn TradingDay.date date (tradingDays period history series) =
      (rowsOn Snapshot.date date history).filterMap fun snapshot =>
        (tradedBar? period series date).map fun bar => ⟨snapshot, bar⟩ := by
  have choice : ∀ snapshot : Snapshot α,
      (if period.contains snapshot.date = true then
        (series.get? snapshot.date).map fun bar => (⟨snapshot, bar⟩ : TradingDay α)
      else none) = (tradedBar? period series snapshot.date).map fun bar => ⟨snapshot, bar⟩ := by
    intro snapshot
    unfold tradedBar?
    split <;> rfl
  rw [← Snapshot.rowsOn_inDateOrder]
  unfold rowsOn tradingDays
  simp only [choice]
  rw [List.filter_filterMap, List.filterMap_filter]
  congr 1
  funext snapshot
  rw [Option.filter_map]
  by_cases onDate : snapshot.date = date
  · subst onDate
    cases tradedBar? period series snapshot.date with
    | none => simp
    | some bar => simp [TradingDay.date]
  · have differs : (snapshot.date == date) = false := by simpa using onDate
    cases tradedBar? period series snapshot.date with
    | none => simp [differs]
    | some bar => simp [TradingDay.date, differs]

/-- Data that agree up to a date have the same trading days up to it. -/
theorem upTo_tradingDays_eq {start finish finish' last : Date} {equity : α}
    {first second : List (Snapshot α)} {prices prices' : PriceSeries α}
    (inside : last ≤ finish) (inside' : last ≤ finish')
    (sameHistory : SameHistory last first second)
    (samePrices : SamePrices last.day prices prices') :
    upTo TradingDay.date last (tradingDays ⟨start, finish, equity⟩ first prices) =
      upTo TradingDay.date last (tradingDays ⟨start, finish', equity⟩ second prices') := by
  apply upTo_eq_of_rowsOn TradingDay.date last tradingDays_ordered tradingDays_ordered
  intro date before
  have sameBar : tradedBar? ⟨start, finish, equity⟩ prices date =
      tradedBar? ⟨start, finish', equity⟩ prices' date := by
    have notLate : date ≤ finish := Int.le_trans before inside
    have notLate' : date ≤ finish' := Int.le_trans before inside'
    simp only [tradedBar?, Period.contains, notLate, notLate', decide_true,
      samePrices date (Date.le_iff.mp before)]
  rw [rowsOn_tradingDays, rowsOn_tradingDays, sameHistory date before, sameBar]

end Days

/-! ## Two runs -/

variable [Arithmetic α] {strategy : Strategy α} {registry : Registry α}
  {prices prices' : PriceSeries α}

/-- A day reads the series only for the price at which its orders are filled. -/
theorem dayStep_congr {day : TradingDay α}
    (sameFill : prices.fillPrice strategy.risk.fillMode day.bar.date day.bar.close =
      prices'.fillPrice strategy.risk.fillMode day.bar.date day.bar.close)
    (portfolio : Portfolio α) :
    dayStep strategy registry prices portfolio day =
      dayStep strategy registry prices' portfolio day := by
  have sameClosing : ∀ position reason,
      closingTrade strategy prices day.bar position reason =
        closingTrade strategy prices' day.bar position reason := by
    intro position reason
    simp only [closingTrade, sameFill]
  have sameOrder : ∀ equity, newPosition? strategy prices day.bar equity =
      newPosition? strategy prices' day.bar equity := by
    intro equity
    simp only [newPosition?, sameFill]
  simp only [dayStep, exitStep, entryStep, sameClosing, sameOrder]

theorem simulate_congr_of_fills {days : List (TradingDay α)}
    (sameFills : ∀ day ∈ days,
      prices.fillPrice strategy.risk.fillMode day.bar.date day.bar.close =
        prices'.fillPrice strategy.risk.fillMode day.bar.date day.bar.close)
    (portfolio : Portfolio α) :
    simulate strategy registry prices portfolio days =
      simulate strategy registry prices' portfolio days := by
  induction days generalizing portfolio with
  | nil => rfl
  | cons day rest ih =>
      have restSame : ∀ next, simulate strategy registry prices next rest =
          simulate strategy registry prices' next rest :=
        ih fun other member => sameFills other (List.mem_cons_of_mem _ member)
      unfold simulate at restSame ⊢
      rw [List.foldlM_cons, List.foldlM_cons, dayStep_congr (sameFills day List.mem_cons_self)]
      congr 1
      funext next
      exact restSame next

theorem simulate_congr {days : List (TradingDay α)}
    (same : ∀ day ∈ days,
      SamePrices (strategy.risk.fillMode.reach day.bar.date) prices prices')
    (portfolio : Portfolio α) :
    simulate strategy registry prices portfolio days =
      simulate strategy registry prices' portfolio days :=
  simulate_congr_of_fills (fun day member => (same day member).fillPrice_eq day.bar.close)
    portfolio

/-- What a run over days in date order has up to a date is what it had when it
was done with the days up to it. -/
theorem simulate_upTo {initial : α} {final : Portfolio α} {days : List (TradingDay α)}
    (aligned : ∀ day ∈ days, day.Aligned) (ordered : DateOrdered TradingDay.date days)
    (last : Date)
    (success : simulate strategy registry prices (Portfolio.start initial) days = .ok final) :
    ∃ account,
      simulate strategy registry prices (Portfolio.start initial)
        (upTo TradingDay.date last days) = .ok account ∧
      simulate strategy registry prices account (past TradingDay.date last days) = .ok final ∧
      account.curve = upTo EquityPoint.date last final.curve ∧
      account.trades = upTo Trade.exitDate last final.trades := by
  have whole := success
  rw [← upTo_append_past TradingDay.date last days ordered] at whole
  obtain ⟨account, reached, onward⟩ := simulate_append_eq_ok.mp whole
  refine ⟨account, reached, onward, ?_, ?_⟩
  · obtain ⟨points, extended⟩ := simulate_curve_prefix onward
    have earlierDates : account.curve.map (·.date) =
        (upTo TradingDay.date last days).map TradingDay.date :=
      simulate_curve_dates reached
    have laterDates := simulate_curve_dates onward
    rw [← extended, List.map_append, List.append_cancel_left_eq] at laterDates
    rw [← extended, upTo_append EquityPoint.date]
    · exact forall_points_of_days (· ≤ last) earlierDates
        fun day member => ((mem_upTo _).mp member).2
    · exact forall_points_of_days (last < ·) laterDates
        fun day member => ((mem_past _).mp member).2
  · obtain ⟨earlier, earlierTrades, earlierDates⟩ := simulate_trades reached
    obtain ⟨later, extended, laterDates⟩ := simulate_trades onward
    rw [extended, upTo_append Trade.exitDate]
    · intro trade member
      rw [earlierTrades] at member
      obtain ⟨day, found, closing⟩ := earlierDates trade member
      obtain ⟨inside, before⟩ := (mem_upTo _).mp found
      rw [closing, aligned day inside]
      exact before
    · intro trade member
      obtain ⟨day, found, closing⟩ := laterDates trade member
      obtain ⟨inside, after⟩ := (mem_past _).mp found
      rw [closing, aligned day inside]
      exact after

end Backtest

namespace Sample

/-- The sample data as they are known on the second day. -/
def knownHistory : List (Snapshot Rat) :=
  [snapshot secondDay 3, snapshot firstDay 1]

def knownSeries : PriceSeries Rat :=
  .ofBars [bar firstDay 100, bar secondDay 110]

theorem thirdDay_beq {date : Date} (before : date ≤ secondDay) : (thirdDay == date) = false := by
  rw [beq_eq_false_iff_ne]
  rintro rfl
  exact absurd before (by decide)

theorem known_sameHistory : SameHistory secondDay knownHistory history := by
  intro date before
  have differs := thirdDay_beq before
  have third : rowsOn Snapshot.date date [snapshot thirdDay 4] = [] := by
    simp [rowsOn, snapshot, differs]
  change rowsOn Snapshot.date date knownHistory =
    rowsOn Snapshot.date date (knownHistory ++ [snapshot thirdDay 4])
  unfold rowsOn at third ⊢
  rw [List.filter_append, third, List.append_nil]

theorem knownSeries_bars : knownSeries.bars = [bar firstDay 100, bar secondDay 110] :=
  mergeSort_eq_of_perm PriceBar.date (.refl _) (by decide)

theorem known_samePrices : SamePrices secondDay.day knownSeries series := by
  intro date before
  have differs := thirdDay_beq before
  rw [PriceSeries.get?, PriceSeries.get?, knownSeries_bars, series_bars]
  simp [bar, differs]

theorem known_tradingDays :
    Backtest.tradingDays ⟨firstDay, secondDay, 10000⟩ knownHistory knownSeries =
      days.take 2 := by
  have rows : Snapshot.inDateOrder knownHistory =
      [snapshot firstDay 1, snapshot secondDay 3] :=
    mergeSort_eq_of_perm Snapshot.date (.swap _ _ _) (by decide)
  unfold Backtest.tradingDays PriceSeries.get?
  rw [rows, knownSeries_bars]
  rfl

end Sample

namespace Backtest

variable [Arithmetic α]

/-- Two runs of a strategy over data that agree up to a date, and on the prices
that fills up to it may read, have the same curve and the same trades up to it.
A run that ends on the date is what the other run was after it. -/
theorem run_agrees_up_to (strategy : Strategy α) (registry : Registry α)
    (start finish finish' last : Date) (equity : α) (history history' : List (Snapshot α))
    (series series' : PriceSeries α) (result result' : Backtest α)
    (inside : last ≤ finish) (inside' : last ≤ finish')
    (sameHistory : SameHistory last history history')
    (samePrices : SamePrices (strategy.risk.fillMode.reach last) series series')
    (success : run strategy ⟨start, finish, equity⟩ history series registry = .ok result)
    (success' : run strategy ⟨start, finish', equity⟩ history' series' registry =
      .ok result') :
    upTo EquityPoint.date last result.curve = upTo EquityPoint.date last result'.curve ∧
      upTo Trade.exitDate last result.trades = upTo Trade.exitDate last result'.trades ∧
      (finish = last →
        result.curve = upTo EquityPoint.date last result'.curve ∧
        result.curve <+: result'.curve ∧
        result.trades = upTo Trade.exitDate last result'.trades ∧
        result.trades <+: result'.trades ∧
        ∃ account final,
          simulate strategy registry series' (Portfolio.start equity)
            (upTo TradingDay.date last
              (tradingDays ⟨start, finish', equity⟩ history' series')) = .ok account ∧
          simulate strategy registry series' account
            (past TradingDay.date last
              (tradingDays ⟨start, finish', equity⟩ history' series')) = .ok final ∧
          ofPortfolio final equity = result' ∧ ofPortfolio account equity = result) := by
  obtain ⟨_, _, final, simulated, rfl⟩ := run_eq_ok.mp success
  obtain ⟨_, _, final', simulated', rfl⟩ := run_eq_ok.mp success'
  obtain ⟨account, reached, _, curve, trades⟩ :=
    simulate_upTo (fun _ => aligned_of_mem) tradingDays_ordered last simulated
  obtain ⟨account', reached', onward', curve', trades'⟩ :=
    simulate_upTo (fun _ => aligned_of_mem) tradingDays_ordered last simulated'
  have sameDays : upTo TradingDay.date last (tradingDays ⟨start, finish, equity⟩ history series) =
      upTo TradingDay.date last (tradingDays ⟨start, finish', equity⟩ history' series') :=
    upTo_tradingDays_eq inside inside' sameHistory
      (samePrices.mono (FillMode.day_le_reach _ last))
  have sameFills : ∀ day ∈ upTo TradingDay.date last
      (tradingDays ⟨start, finish', equity⟩ history' series'),
      SamePrices (strategy.risk.fillMode.reach day.bar.date) series series' := by
    intro day member
    obtain ⟨traded, before⟩ := (mem_upTo _).mp member
    rw [aligned_of_mem traded]
    exact samePrices.mono (FillMode.reach_mono _ before)
  have sameAccount : account = account' := by
    rw [sameDays, simulate_congr sameFills] at reached
    exact Except.ok.inj (reached.symm.trans reached')
  subst account'
  refine ⟨?_, ?_, ?_⟩
  · exact curve.symm.trans curve'
  · exact trades.symm.trans trades'
  · intro ends
    -- no day of the run is later than its last, so the run is done with the days up to it
    have allUpTo : upTo TradingDay.date last (tradingDays ⟨start, finish, equity⟩ history series) =
        tradingDays ⟨start, finish, equity⟩ history series := by
      apply upTo_eq_self
      intro day member
      have within := (mem_tradingDays.mp member).2.1
      simp only [Period.contains, Bool.and_eq_true, decide_eq_true_eq] at within
      rw [← ends]
      exact within.2
    have finished : account = final := by
      rw [allUpTo] at reached
      exact Except.ok.inj (reached.symm.trans simulated)
    subst account
    exact ⟨curve', simulate_curve_prefix onward', trades', simulate_trades_prefix onward',
      final, final', reached', onward', rfl, rfl⟩

/-- On the second day of the sample its second position is open. -/
theorem run_agrees_up_to_secondDay :
    SameHistory Sample.secondDay Sample.knownHistory Sample.history ∧
      SamePrices (Sample.strategy.risk.fillMode.reach Sample.secondDay) Sample.knownSeries
        Sample.series ∧
      ∃ result result',
        run Sample.strategy ⟨Sample.firstDay, Sample.secondDay, 10000⟩ Sample.knownHistory
          Sample.knownSeries Registry.builtin = .ok result ∧
        run Sample.strategy Sample.period Sample.history Sample.series Registry.builtin =
          .ok result' ∧
        result.curve <+: result'.curve ∧ result.trades <+: result'.trades ∧
        result.openPosition.isSome = true ∧ result.trades.length = 1 := by
  refine ⟨Sample.known_sameHistory, Sample.known_samePrices, ?_⟩
  obtain ⟨final, simulated, success⟩ := run_complete Sample.strategy_valid
    (eq_ok_of_toBool (by decide +kernel) :
      Period.validate ⟨Sample.firstDay, Sample.secondDay, (10000 : Rat)⟩ = .ok ())
    Sample.knownHistory Sample.knownSeries Registry.builtin
  obtain ⟨final', _, success'⟩ := run_complete Sample.strategy_valid Sample.period_valid
    Sample.history Sample.series Registry.builtin
  obtain ⟨_, _, atEnd⟩ := run_agrees_up_to Sample.strategy Registry.builtin Sample.firstDay
    Sample.secondDay Sample.thirdDay Sample.secondDay 10000 Sample.knownHistory Sample.history
    Sample.knownSeries Sample.series _ _ (by decide) (by decide) Sample.known_sameHistory
    Sample.known_samePrices success success'
  obtain ⟨_, points, _, trades, _⟩ := atEnd rfl
  have outcome : ((simulate Sample.strategy Registry.builtin Sample.knownSeries
      (Portfolio.start 10000) (Sample.days.take 2)).toOption.all fun account =>
        account.position.isSome && account.trades.length == 1) = true := by
    decide +kernel
  rw [← Sample.known_tradingDays, simulated] at outcome
  simp only [Except.toOption, Option.all_some, Bool.and_eq_true, beq_iff_eq] at outcome
  exact ⟨_, _, success, success', points, trades, outcome.1, outcome.2⟩

end Backtest

end DailySignals
