import DailySignals.Proofs.Backtest.Lifecycle
import DailySignals.Store.Memory
import DailySignals.Trading.Inputs

/-!
# Runs over what a source holds

Nothing between a source and a run takes out a row that is there twice: every
row in the period whose date has a bar makes a trading day.  So the days of such
a run are of distinct dates exactly if those rows are.  Where two of them share
a date it is simulated twice, and a position may be bought and sold on it.
-/

set_option autoImplicit false

namespace DailySignals

variable {α : Type}

theorem PriceSeries.get?_ofBars_isSome (bars : List (PriceBar α)) (date : Date) :
    ((PriceSeries.ofBars bars).get? date).isSome = bars.any fun bar => bar.date == date := by
  rw [Bool.eq_iff_iff]
  simp only [PriceSeries.get?, PriceSeries.ofBars, PriceBar.inDateOrder, List.find?_isSome,
    List.mem_reverse, List.mem_mergeSort, List.any_eq_true]

namespace MemoryStore

variable (store : MemoryStore α)

/-- What is held newest first, and is all asked for, is given as it is held. -/
theorem history_of_newestFirst {query : HistoryQuery} {limit : Nat}
    (bounded : query.limit = some limit) (few : store.snapshots.length ≤ limit)
    (asked : ∀ snapshot ∈ store.snapshots, query.includes snapshot = true)
    (newestFirst : store.snapshots.Pairwise fun first second => second.date ≤ first.date) :
    store.history query = store.snapshots := by
  have sorted : Source.newestFirst store.snapshots = store.snapshots := by
    apply List.mergeSort_of_pairwise
    exact newestFirst.imp fun before => decide_eq_true before
  rw [history, List.filter_eq_self.mpr asked, bounded, Source.mostRecent, sorted,
    List.take_of_length_le few]

theorem prices_of_dateOrdered {symbol : String}
    (asked : ∀ bar ∈ store.bars, (bar.symbol == symbol) = true)
    (ordered : DateOrdered PriceBar.date store.bars) :
    store.prices symbol = store.bars := by
  rw [prices, List.filter_eq_self.mpr asked]
  exact mergeSort_of_dateOrdered PriceBar.date ordered

end MemoryStore

namespace RunInputs

/-- What a run asks a source for. -/
def query (symbol : String) (start finish : Date) : HistoryQuery :=
  { symbol := symbol, start := some start, finish := some finish, limit := some historyLimit }

/-- The bars that a run keeps. -/
def nearBars (start finish : Date) (bars : List (PriceBar α)) : List (PriceBar α) :=
  bars.filter fun bar => decide (start ≤ bar.date) && decide (bar.date ≤ horizon finish)

theorem load_of_answers {source : Source α} {symbol : String} {start finish : Date}
    {rows : List (Snapshot α)} {bars : List (PriceBar α)}
    (history : source.history (query symbol start finish) = .ok rows) (found : rows ≠ [])
    (prices : source.prices symbol = .ok bars) :
    load source symbol start finish =
      .ok ⟨Snapshot.inDateOrder rows, PriceSeries.ofBars (nearBars start finish bars)⟩ := by
  have some_rows : rows.isEmpty = false := by simpa using found
  rw [query] at history
  simp only [load, history, prices, some_rows, bind, Except.bind, Bool.false_eq_true, if_false]
  rfl

theorem le_horizon (finish : Date) : finish ≤ horizon finish := by
  rw [Date.le_iff, horizon]
  cases reached : finish.addDays? lookaheadDays with
  | none => exact Int.le_refl _
  | some later =>
      rw [Option.getD_some, Date.day_of_addDays? reached]
      omega

/-- A row of the period is traded if some bar of the source is of its date. -/
theorem isTraded_loaded (start finish : Date) (equity : α) (bars : List (PriceBar α))
    (row : Snapshot α) :
    Backtest.isTraded ⟨start, finish, equity⟩
        (PriceSeries.ofBars (nearBars start finish bars)) row =
      (Period.contains ⟨start, finish, equity⟩ row.date &&
        bars.any fun bar => bar.date == row.date) := by
  rw [Backtest.isTraded, PriceSeries.get?_ofBars_isSome]
  by_cases inside : Period.contains ⟨start, finish, equity⟩ row.date = true
  · rw [inside, Bool.true_and, Bool.true_and, nearBars, List.any_filter]
    congr 1
    funext bar
    by_cases same : bar.date = row.date
    · have within := inside
      simp only [Period.contains, Bool.and_eq_true, decide_eq_true_eq] at within
      have near : row.date ≤ horizon finish := Int.le_trans within.2 (le_horizon finish)
      simp only [same, within.1, near, decide_true, Bool.and_self, Bool.true_and]
    · have differs : (bar.date == row.date) = false := by simpa using same
      rw [differs, Bool.and_false]
  · rw [Bool.not_eq_true] at inside
    rw [inside, Bool.false_and, Bool.false_and]

end RunInputs

namespace Sample

/-- The sample data, newest row first. -/
def store : MemoryStore Rat :=
  ⟨[snapshot thirdDay 4, snapshot secondDay 3, snapshot firstDay 1],
    [bar firstDay 100, bar secondDay 110, bar thirdDay 121]⟩

/-- A source that holds one row twice. -/
def twice : MemoryStore Rat :=
  ⟨[snapshot firstDay 3, snapshot firstDay 3], [bar firstDay 100]⟩

theorem store_history :
    store.source.history (RunInputs.query "XYZ" firstDay thirdDay) = .ok store.snapshots :=
  congrArg Except.ok
    (store.history_of_newestFirst rfl (by decide) (by decide) (by decide))

theorem store_prices : store.source.prices "XYZ" = .ok store.bars :=
  congrArg Except.ok (store.prices_of_dateOrdered (by decide) (by decide))

theorem twice_history :
    twice.source.history (RunInputs.query "XYZ" firstDay thirdDay) = .ok twice.snapshots :=
  congrArg Except.ok
    (twice.history_of_newestFirst rfl (by decide) (by decide) (by decide))

theorem twice_prices : twice.source.prices "XYZ" = .ok twice.bars :=
  congrArg Except.ok (twice.prices_of_dateOrdered (by decide) (by decide))

def twiceInputs : RunInputs Rat :=
  ⟨twice.snapshots, .ofBars twice.bars⟩

def twiceDays : List (TradingDay Rat) :=
  [⟨snapshot firstDay 3, bar firstDay 100⟩, ⟨snapshot firstDay 3, bar firstDay 100⟩]

theorem twice_inDateOrder : Snapshot.inDateOrder twice.snapshots = twice.snapshots :=
  mergeSort_of_dateOrdered Snapshot.date (by decide)

theorem load_twice :
    RunInputs.load twice.source "XYZ" firstDay thirdDay = .ok twiceInputs := by
  rw [RunInputs.load_of_answers twice_history (List.cons_ne_nil _ _) twice_prices,
    twice_inDateOrder]
  rfl

theorem tradingDays_twice :
    Backtest.tradingDays period twiceInputs.history twiceInputs.series = twiceDays := by
  have bars : twiceInputs.series.bars = twice.bars :=
    mergeSort_of_dateOrdered PriceBar.date (by decide)
  have rows : Snapshot.inDateOrder twiceInputs.history = twice.snapshots :=
    twice_inDateOrder
  unfold Backtest.tradingDays PriceSeries.get?
  rw [rows, bars]
  rfl

end Sample

namespace Backtest

variable [Arithmetic α]

/-- A run over what a source gives has a curve in strict date order, and trades
that take time, exactly if no two rows of one date are traded. -/
theorem run_stored_ordered_iff (source : Source α) (symbol : String) (start finish : Date)
    (equity : α) (strategy : Strategy α) (registry : Registry α)
    (rows : List (Snapshot α)) (bars : List (PriceBar α))
    (history : source.history (RunInputs.query symbol start finish) = .ok rows)
    (found : rows ≠ []) (prices : source.prices symbol = .ok bars)
    (strategyValid : strategy.validate = .ok ())
    (periodValid : Period.validate ⟨start, finish, equity⟩ = .ok ()) :
    ∃ inputs result,
      RunInputs.load source symbol start finish = .ok inputs ∧
      run strategy ⟨start, finish, equity⟩ inputs.history inputs.series registry = .ok result ∧
      ((result.curve.Pairwise (fun first second => first.date < second.date) ∧
          ∀ trade ∈ result.trades, trade.entryDate < trade.exitDate) ↔
        ((rows.filter fun row => Period.contains ⟨start, finish, equity⟩ row.date &&
          bars.any fun bar => bar.date == row.date).map (·.date)).Nodup) := by
  have loaded := RunInputs.load_of_answers history found prices
  obtain ⟨final, simulated, success⟩ := run_complete strategyValid periodValid
    (Snapshot.inDateOrder rows)
    (PriceSeries.ofBars (RunInputs.nearBars start finish bars)) registry
  have sameRows := ((List.mergeSort_perm rows (notAfter Snapshot.date)).filter
    fun row => Period.contains ⟨start, finish, equity⟩ row.date &&
      bars.any fun bar => bar.date == row.date).map (·.date)
  have distinct : Increasing (tradingDays ⟨start, finish, equity⟩ (Snapshot.inDateOrder rows)
      (PriceSeries.ofBars (RunInputs.nearBars start finish bars))) ↔
      ((rows.filter fun row => Period.contains ⟨start, finish, equity⟩ row.date &&
        bars.any fun bar => bar.date == row.date).map (·.date)).Nodup := by
    rw [tradingDays_increasing_iff, ← sameRows.nodup_iff,
      funext (RunInputs.isTraded_loaded start finish equity bars)]
    rfl
  refine ⟨_, ofPortfolio final equity, loaded, success, ?_⟩
  rw [← distinct]
  constructor
  · rintro ⟨ordered, _⟩
    exact (simulate_curve_increasing_iff simulated).mp ordered
  · intro increasing
    have orderly := simulate_orderly (fun _ => aligned_of_mem) increasing simulated
    exact ⟨(simulate_curve_increasing_iff simulated).mpr increasing,
      fun trade member => (orderly.trade_span trade member).1⟩

theorem run_stored_ordered_sample :
    ∃ inputs result,
      RunInputs.load Sample.store.source "XYZ" Sample.firstDay Sample.thirdDay = .ok inputs ∧
      run Sample.strategy Sample.period inputs.history inputs.series Registry.builtin =
        .ok result ∧
      result.curve.Pairwise fun first second => first.date < second.date := by
  obtain ⟨inputs, result, loaded, success, ordered⟩ := run_stored_ordered_iff
    Sample.store.source "XYZ" Sample.firstDay Sample.thirdDay 10000 Sample.strategy
    Registry.builtin _ _ Sample.store_history (List.cons_ne_nil _ _) Sample.store_prices
    Sample.strategy_valid Sample.period_valid
  exact ⟨inputs, result, loaded, success, (ordered.mpr (by decide)).1⟩

/-- A day of two rows has two equity points, and what its first row bought its
second row sells. -/
theorem duplicate_rows_trade_twice :
    Sample.strategy.validate = .ok () ∧ Sample.period.validate = .ok () ∧
      ∃ inputs result,
        RunInputs.load Sample.twice.source "XYZ" Sample.firstDay Sample.thirdDay = .ok inputs ∧
        run Sample.strategy Sample.period inputs.history inputs.series Registry.builtin =
          .ok result ∧
        ¬ result.curve.Pairwise (fun first second => first.date < second.date) ∧
        ∃ trade ∈ result.trades, ¬ trade.entryDate < trade.exitDate := by
  refine ⟨Sample.strategy_valid, Sample.period_valid, ?_⟩
  obtain ⟨final, simulated, success⟩ := run_complete Sample.strategy_valid Sample.period_valid
    Sample.twiceInputs.history Sample.twiceInputs.series Registry.builtin
  rw [Sample.tradingDays_twice] at simulated
  have outcome : ((simulate Sample.strategy Registry.builtin Sample.twiceInputs.series
      (Portfolio.start Sample.period.equity) Sample.twiceDays).toOption.all fun account =>
        account.trades.any fun trade => !decide (trade.entryDate < trade.exitDate)) = true := by
    decide +kernel
  rw [simulated] at outcome
  simp only [Except.toOption, Option.all_some, List.any_eq_true, Bool.not_eq_true',
    decide_eq_false_iff_not] at outcome
  refine ⟨_, _, Sample.load_twice, success, ?_, outcome⟩
  intro ordered
  have increasing := (simulate_curve_increasing_iff simulated).mp ordered
  have earlier : Sample.firstDay < Sample.firstDay :=
    (List.pairwise_cons.mp increasing).1 _ (List.mem_singleton_self _)
  exact Date.ne_of_lt earlier rfl

end Backtest

end DailySignals
