import DailySignals.Proofs.Backtest.Entries
import DailySignals.Proofs.NumberOrder
import DailySignals.Proofs.Scoring.Inert
import DailySignals.Proofs.Stores
import DailySignals.Trading.Live

/-!
# A live run is the entry of today

A live run simulates one day, with an account that has just started: there is no
position to leave, no exit to rest from, and nothing has been lost.  Of all that
a day does its entry is left (`Buys`), and the records are at most that of the
position it opens.  Rows of the days before only tell whether the symbol has data,
and the limit on rows never costs a row of today, which is the latest date asked
for.
-/

set_option autoImplicit false

namespace DailySignals

variable {α : Type}

namespace Source

variable {limit : Nat} {date : Date} {rows : List (Snapshot α)}

/-- If a limit leaves out a row of the latest date, it keeps rows of this date only. -/
theorem date_of_leftOut (latest : ∀ row ∈ rows, row.date ≤ date) {row : Snapshot α}
    (isLeftOut : row ∈ leftOut (some limit) rows) (dated : row.date = date) :
    ∀ kept ∈ mostRecent (some limit) rows, kept.date = date := by
  intro kept isKept
  have before := latest kept (List.mem_mergeSort.mp (List.mem_of_mem_take isKept))
  have after := le_of_mem_leftOut isKept isLeftOut
  rw [dated, Date.le_iff] at after
  rw [Date.le_iff] at before
  exact Date.eq_of_day_eq (Int.le_antisymm before after)

/-- If all rows of the latest date fit into a limit, the limit leaves out none of them. -/
theorem rowsOn_mostRecent (latest : ∀ row ∈ rows, row.date ≤ date)
    (few : (rowsOn Snapshot.date date rows).length ≤ limit) :
    rowsOn Snapshot.date date (mostRecent (some limit) rows) =
      rowsOn Snapshot.date date rows := by
  have whole := congrArg (rowsOn Snapshot.date date) (mostRecent_append_leftOut (some limit) rows)
  rw [rowsOn_newestFirst, rowsOn, List.filter_append, ← rowsOn, ← rowsOn] at whole
  have none_left : rowsOn Snapshot.date date (leftOut (some limit) rows) = [] := by
    apply List.eq_nil_iff_forall_not_mem.mpr
    intro row onDate
    obtain ⟨isLeftOut, dated⟩ := List.mem_filter.mp onDate
    have kept : rowsOn Snapshot.date date (mostRecent (some limit) rows) =
        mostRecent (some limit) rows := by
      apply List.filter_eq_self.mpr
      intro other isKept
      exact beq_iff_eq.mpr (date_of_leftOut latest isLeftOut (beq_iff_eq.mp dated) other isKept)
    -- the limit is used up by rows of the date, and this one comes on top
    have some_left : 0 < (leftOut (some limit) rows).length := List.length_pos_of_mem isLeftOut
    have on_top : 0 < (rowsOn Snapshot.date date (leftOut (some limit) rows)).length :=
      List.length_pos_of_mem onDate
    have counted := congrArg List.length whole
    rw [kept, List.length_append, length_mostRecent] at counted
    rw [leftOut, List.length_drop, newestFirst, List.length_mergeSort] at some_left
    omega
  rw [none_left, List.append_nil] at whole
  exact whole

end Source

namespace TradeRecord

/-- A record of a position that is not closed yet. -/
structure IsOpen (record : TradeRecord α) : Prop where
  exitDate : record.exitDate = none
  exitPrice : record.exitPrice = none
  profit : record.profit = none
  profitRate : record.profitRate = none
  holdDays : record.holdDays = none
  reason : record.reason = none

/-- The record of a purchase. -/
def opening (strategy : Strategy α) (environment : Environment) (date : Date) (price : α) :
    TradeRecord α where
  strategy := strategy.name
  symbol := strategy.symbol
  environment := environment
  side := .buy
  entryDate := date
  entryPrice := price
  exitDate := none
  exitPrice := none
  profit := none
  profitRate := none
  holdDays := none
  reason := none

theorem opening_isOpen (strategy : Strategy α) (environment : Environment) (date : Date)
    (price : α) : (opening strategy environment date price).IsOpen :=
  ⟨rfl, rfl, rfl, rfl, rfl, rfl⟩

end TradeRecord

/-- The dates of which a live run reads rows. -/
def Live.Recent (today date : Date) : Prop :=
  today.day - 5 ≤ date.day ∧ date.day ≤ today.day

instance (today date : Date) : Decidable (Live.Recent today date) :=
  inferInstanceAs (Decidable (_ ∧ _))

namespace MemoryStore

/-- Whether a symbol has a successful row that a live run reads. -/
def HasRecent (store : MemoryStore α) (symbol : String) (today : Date) : Prop :=
  ∃ row ∈ store.rowsOf symbol, Live.Recent today row.date

instance (store : MemoryStore α) (symbol : String) (today : Date) :
    Decidable (store.HasRecent symbol today) :=
  inferInstanceAs (Decidable (∃ row ∈ store.rowsOf symbol, Live.Recent today row.date))

/-- All prices of a symbol. -/
def seriesOf (store : MemoryStore α) (symbol : String) : PriceSeries α :=
  .ofBars (store.barsOf symbol)

/-- Stores that hold the same of a symbol on a day: its rows of the day, and the
bars that count on the day and on the day after. -/
structure SameToday (symbol : String) (today : Date) (store other : MemoryStore α) : Prop where
  rows : rowsOn Snapshot.date today (other.rowsOf symbol) =
    rowsOn Snapshot.date today (store.rowsOf symbol)
  bar : (other.seriesOf symbol).get? today = (store.seriesOf symbol).get? today
  nextBar : (other.seriesOf symbol).nextDay? today = (store.seriesOf symbol).nextDay? today

end MemoryStore

namespace Live

open Backtest

/-! ## What is loaded -/

/-- The period of a live run, with the money of one order. -/
def periodOf (strategy : Strategy α) (today : Date) : Period α :=
  ⟨today, today, strategy.risk.orderSize⟩

variable {strategy : Strategy α} {today : Date} {rows : List (Snapshot α)}
  {series : PriceSeries α}

theorem contains_today {date : Date} :
    (periodOf strategy today).contains date = true ↔ date = today := by
  simp only [periodOf, Period.contains, Bool.and_eq_true, decide_eq_true_eq, Date.le_iff]
  constructor
  · rintro ⟨after, before⟩
    exact Date.eq_of_day_eq (Int.le_antisymm before after)
  · rintro rfl
    exact ⟨Int.le_refl _, Int.le_refl _⟩

/-- No more days are simulated than there are rows of today. -/
theorem length_tradingDays_le :
    (tradingDays (periodOf strategy today) rows series).length ≤
      (rowsOn Snapshot.date today rows).length := by
  have all_today : rowsOn TradingDay.date today
      (tradingDays (periodOf strategy today) rows series) =
        tradingDays (periodOf strategy today) rows series := by
    apply List.filter_eq_self.mpr
    intro day member
    rw [beq_iff_eq]
    exact contains_today.mp (mem_tradingDays.mp member).2.1
  rw [← all_today, rowsOn_tradingDays]
  exact List.length_filterMap_le _ _

/-- The first day of which a live run reads rows. -/
def windowStart (today : Date) : Date :=
  (today.subDays? lookbackDays).getD today

theorem day_windowStart (room : Calendar.firstDay + 5 ≤ today.day) :
    (windowStart today).day = today.day - 5 := by
  have before_last := today.le_last
  have reached : today.subDays? lookbackDays =
      some ⟨today.day - lookbackDays, by rw [lookbackDays]; omega, by rw [lookbackDays]; omega⟩ :=
    dif_pos (by rw [lookbackDays]; omega)
  rw [windowStart, reached]
  rfl

/-- The period of which a live run reads rows. -/
def windowOf (strategy : Strategy α) (today : Date) : Period α :=
  ⟨windowStart today, today, strategy.risk.orderSize⟩

theorem contains_recent (room : Calendar.firstDay + 5 ≤ today.day) {date : Date} :
    (windowOf strategy today).contains date = true ↔ Recent today date := by
  simp only [windowOf, Period.contains, Bool.and_eq_true, decide_eq_true_eq, Date.le_iff,
    day_windowStart room, Recent]

/-- The rows that a live run is given. -/
theorem history_window (store : MemoryStore α) :
    store.history (RunInputs.query strategy.symbol (windowStart today) today) =
      Source.mostRecent (some RunInputs.historyLimit)
        ((store.rowsOf strategy.symbol).filter fun row =>
          (windowOf strategy today).contains row.date) := by
  rw [MemoryStore.history, ← store.filter_includes]
  rfl

theorem history_eq_nil (store : MemoryStore α) (room : Calendar.firstDay + 5 ≤ today.day) :
    store.history (RunInputs.query strategy.symbol (windowStart today) today) = [] ↔
      ¬ store.HasRecent strategy.symbol today := by
  rw [history_window, ← List.length_eq_zero_iff, Source.length_mostRecent,
    Nat.min_eq_zero_iff, List.length_eq_zero_iff, List.filter_eq_nil_iff]
  simp only [contains_recent room, RunInputs.historyLimit, Nat.reduceEqDiff, false_or,
    MemoryStore.HasRecent, not_exists, not_and]

/-- All rows of today are among those that a live run is given. -/
theorem rowsOn_history (store : MemoryStore α)
    (single : (rowsOn Snapshot.date today (store.rowsOf strategy.symbol)).length ≤ 1)
    (room : Calendar.firstDay + 5 ≤ today.day) :
    rowsOn Snapshot.date today
        (store.history (RunInputs.query strategy.symbol (windowStart today) today)) =
      rowsOn Snapshot.date today (store.rowsOf strategy.symbol) := by
  have today_recent : (windowOf strategy today).contains today = true :=
    (contains_recent room).mpr ⟨by omega, Int.le_refl _⟩
  have asked := rowsOn_filter Snapshot.date (windowOf strategy today).contains today_recent
    (store.rowsOf strategy.symbol)
  rw [history_window, Source.rowsOn_mostRecent, asked]
  · intro row member
    obtain ⟨_, inside⟩ := List.mem_filter.mp member
    exact ((contains_recent room).mp inside).2
  · rw [asked]
    exact single.trans (by decide)

end Live

variable [Arithmetic α]

namespace Live

variable {strategy : Strategy α} {registry : Registry α} {today : Date}
  {environment : Environment}

/-! ## What is run -/

theorem run_of_loaded {source : Source α} {inputs : RunInputs α}
    (loaded : RunInputs.load source strategy.symbol (windowStart today) today = .ok inputs) :
    run strategy source registry today environment =
      (Backtest.run strategy (periodOf strategy today) inputs.history inputs.series
        registry).map (records strategy environment) := by
  rw [windowStart] at loaded
  exact bind_of_ok loaded

/-- Without recent rows a live run has no data. -/
theorem run_of_no_rows (store : MemoryStore α) (room : Calendar.firstDay + 5 ≤ today.day)
    (none_recent : ¬ store.HasRecent strategy.symbol today) :
    run strategy store.source registry today environment =
      .error (.noData strategy.symbol) := by
  have given : store.source.history
      (RunInputs.query strategy.symbol (windowStart today) today) = .ok [] :=
    congrArg Except.ok ((history_eq_nil store room).mpr none_recent)
  have failed := RunInputs.load_of_no_rows given
  rw [windowStart] at failed
  exact bind_of_error failed

/-- With recent rows a live run is the run of today over all that is held of the
symbol. -/
theorem run_of_rows (store : MemoryStore α)
    (single : (rowsOn Snapshot.date today (store.rowsOf strategy.symbol)).length ≤ 1)
    (room : Calendar.firstDay + 5 ≤ today.day) (ahead : today.day + 2 ≤ Calendar.lastDay)
    (some_recent : store.HasRecent strategy.symbol today) :
    run strategy store.source registry today environment =
      (Backtest.run strategy (periodOf strategy today) (store.rowsOf strategy.symbol)
        (store.seriesOf strategy.symbol) registry).map (records strategy environment) := by
  have found : store.history
      (RunInputs.query strategy.symbol (windowStart today) today) ≠ [] :=
    fun nothing => (history_eq_nil store room).mp nothing some_recent
  have start_le : windowStart today ≤ today := by
    rw [Date.le_iff, day_windowStart room]
    omega
  rw [run_of_loaded (RunInputs.load_of_answers rfl found rfl)]
  congr 1
  apply Backtest.run_congr
  · intro date inside
    rw [contains_today.mp inside, Snapshot.rowsOn_inDateOrder, rowsOn_history store single room]
  · intro date inside
    rw [contains_today.mp inside,
      RunInputs.get?_nearBars start_le (RunInputs.le_horizon today), store.ofBars_prices,
      MemoryStore.seriesOf]
  · intro date inside
    rw [contains_today.mp inside,
      RunInputs.nextDay?_nearBars start_le (Int.le_refl _) ahead, store.ofBars_prices,
      MemoryStore.seriesOf]

/-- Of the rows and bars a live run reads, those of other days than today and
tomorrow tell only whether there is data. -/
theorem run_congr_today {store other : MemoryStore α}
    (single : (rowsOn Snapshot.date today (store.rowsOf strategy.symbol)).length ≤ 1)
    (room : Calendar.firstDay + 5 ≤ today.day) (ahead : today.day + 2 ≤ Calendar.lastDay)
    (same : MemoryStore.SameToday strategy.symbol today store other)
    (sameData : other.HasRecent strategy.symbol today ↔
      store.HasRecent strategy.symbol today) :
    run strategy other.source registry today environment =
      run strategy store.source registry today environment := by
  by_cases some_recent : store.HasRecent strategy.symbol today
  · rw [run_of_rows store single room ahead some_recent,
      run_of_rows other (same.rows ▸ single) room ahead (sameData.mpr some_recent)]
    congr 1
    apply Backtest.run_congr
    · intro date inside
      rw [contains_today.mp inside, same.rows]
    · intro date inside
      rw [contains_today.mp inside, same.bar]
    · intro date inside
      rw [contains_today.mp inside, same.nextBar]
  · rw [run_of_no_rows store room some_recent,
      run_of_no_rows other room (sameData.not.mpr some_recent)]

end Live

namespace Backtest

variable {strategy : Strategy α} {registry : Registry α} {series : PriceSeries α}

/-- The first day of an account has nothing to leave: it opens a position or does not. -/
theorem dayStep_start {day : TradingDay α} {initial : α} {after : Portfolio α}
    (aligned : day.Aligned)
    (step : dayStep strategy registry series (Portfolio.start initial) day = .ok after) :
    after.trades = [] ∧
      (Enters strategy registry series day initial (Portfolio.start initial) →
        after.position = some (bought strategy series day initial)) ∧
      (¬ Enters strategy registry series day initial (Portfolio.start initial) →
        after.position = none) := by
  obtain ⟨afterExit, afterEntry, exited, entered, rfl⟩ := dayStep_eq_ok.mp step
  cases exited with
  | kept held => cases held
  | closed held => cases held
  | flat =>
      obtain ⟨enters_iff, position_eq⟩ := entered.enters_iff aligned rfl rfl
      refine ⟨entered.trades_eq, ?_, ?_⟩
      · intro enters
        obtain ⟨position, held, _⟩ := enters_iff.mpr enters
        obtain rfl := position_eq position held
        exact held
      · intro stays
        change afterEntry.position = none
        cases held : afterEntry.position with
        | none => rfl
        | some position =>
            rw [position_eq position held] at held
            exact absurd (enters_iff.mp ⟨_, held, rfl⟩) stays

variable [LawfulOrder α] [LawfulChange α]

/-- An account that is worth what it was worth has not lost too much. -/
theorem withinLossLimit_unchanged {risk : RiskSettings α} (valid : risk.validate = .ok ())
    {equity : α} (size : RiskSettings.isSize equity = true) :
    WithinLossLimit risk equity equity := by
  obtain ⟨admissible, _⟩ := RiskSettings.validate_eq_ok.mp valid
  have limits := admissible.maxDailyLoss
  rw [RiskSettings.isSize, Bool.and_eq_true] at size
  cases limited : risk.maxDailyLoss with
  | none => exact .inl limited
  | some limit =>
      rw [limited, Option.all_some, RiskSettings.isSize, Bool.and_eq_true] at limits
      exact .inr (.inr ⟨limit, limited,
        LawfulChange.not_le_unchanged size.1 size.2 limits.1⟩)

/-- With the money of one order, the first day enters on a signal, if there is
something to spend at a price. -/
theorem enters_start_iff (valid : strategy.risk.validate = .ok ()) {day : TradingDay α} :
    Enters strategy registry series day strategy.risk.orderSize
        (Portfolio.start strategy.risk.orderSize) ↔
      strategy.entrySignal registry day.snapshot = .ok true ∧
        0 < strategy.risk.orderNotional strategy.risk.orderSize ∧
        0 < series.fillPrice strategy.risk.fillMode day.date day.bar.close := by
  obtain ⟨admissible, _⟩ := RiskSettings.validate_eq_ok.mp valid
  constructor
  · intro enters
    exact ⟨enters.signalled, enters.funded, enters.priced⟩
  · rintro ⟨signalled, funded, priced⟩
    exact ⟨.inr (.inl rfl), withinLossLimit_unchanged valid admissible.orderSize, signalled,
      funded, priced⟩

end Backtest

namespace Live

open Backtest

/-- What it takes for a live run to buy: a row of today and a bar of today, an
entry signal on that row, and something to spend at the price of the fill. -/
structure Buys (strategy : Strategy α) (registry : Registry α) (rows : List (Snapshot α))
    (series : PriceSeries α) (today : Date) (row : Snapshot α) (bar : PriceBar α) : Prop where
  held : row ∈ rows
  dated : row.date = today
  traded : series.get? today = some bar
  signalled : strategy.entrySignal registry row = .ok true
  funded : 0 < strategy.risk.orderNotional strategy.risk.orderSize
  priced : 0 < series.fillPrice strategy.risk.fillMode today bar.close

variable {strategy : Strategy α} {registry : Registry α} {today : Date}
  {environment : Environment} {rows : List (Snapshot α)} {series : PriceSeries α}

/-! ## The day -/

theorem periodOf_valid (valid : strategy.validate = .ok ()) :
    (periodOf strategy today).validate = .ok () := by
  obtain ⟨admissible, _⟩ := RiskSettings.validate_eq_ok.mp (Strategy.risk_valid valid)
  exact Period.validate_eq_ok.mpr ⟨fun before => Date.ne_of_lt before rfl, admissible.orderSize⟩

theorem Buys.hasRecent {store : MemoryStore α} {row : Snapshot α} {bar : PriceBar α}
    (buys : Buys strategy registry (store.rowsOf strategy.symbol) series today row bar) :
    store.HasRecent strategy.symbol today := by
  refine ⟨row, buys.held, ?_⟩
  rw [buys.dated]
  exact ⟨by omega, Int.le_refl _⟩

/-- What a live run reports of a simulation of today. -/
theorem records_ofPortfolio {final : Portfolio α} {initial : α} (idle : final.trades = [])
    (environment : Environment) :
    records strategy environment (ofPortfolio final initial) =
      (final.position.map (TradeRecord.ofPosition strategy environment)).toList := by
  rw [records]
  change final.trades.map _ ++ _ = _
  rw [idle]
  rfl

variable [LawfulOrder α] [LawfulChange α]

/-- A live run buys on the days of its period that its account enters. -/
theorem buys_iff (valid : strategy.validate = .ok ()) {row : Snapshot α} {bar : PriceBar α} :
    Buys strategy registry rows series today row bar ↔
      ⟨row, bar⟩ ∈ tradingDays (periodOf strategy today) rows series ∧
        Enters strategy registry series ⟨row, bar⟩ strategy.risk.orderSize
          (Portfolio.start strategy.risk.orderSize) := by
  rw [enters_start_iff (Strategy.risk_valid valid), mem_tradingDays, TradingDay.date,
    contains_today]
  constructor
  · rintro ⟨held, rfl, traded, signalled, funded, priced⟩
    exact ⟨⟨held, rfl, traded⟩, signalled, funded, priced⟩
  · rintro ⟨⟨held, rfl, traded⟩, signalled, funded, priced⟩
    exact ⟨held, rfl, traded, signalled, funded, priced⟩

theorem records_today (valid : strategy.validate = .ok ())
    (single : (rowsOn Snapshot.date today rows).length ≤ 1) (registry : Registry α)
    (series : PriceSeries α) (environment : Environment) :
    ∃ result, Backtest.run strategy (periodOf strategy today) rows series registry =
        .ok result ∧
      (∀ row bar, Buys strategy registry rows series today row bar →
        records strategy environment result =
          [.opening strategy environment today
            (series.fillPrice strategy.risk.fillMode today bar.close)]) ∧
      ((∀ row bar, ¬ Buys strategy registry rows series today row bar) →
        records strategy environment result = []) := by
  obtain ⟨final, simulated, success⟩ :=
    run_complete valid (periodOf_valid valid) rows series registry
  have few : (tradingDays (periodOf strategy today) rows series).length ≤ 1 :=
    length_tradingDays_le.trans single
  refine ⟨_, success, ?_⟩
  cases days : tradingDays (periodOf strategy today) rows series with
  | nil =>
      rw [days] at simulated
      cases simulated
      refine ⟨?_, fun _ => rfl⟩
      intro row bar buys
      have isDay := ((buys_iff valid).mp buys).1
      rw [days] at isDay
      cases isDay
  | cons day others =>
      have member : day ∈ tradingDays (periodOf strategy today) rows series :=
        days ▸ List.mem_cons_self
      have onToday : day.date = today := contains_today.mp (mem_tradingDays.mp member).2.1
      rw [days, List.length_cons] at few
      obtain rfl : others = [] := List.eq_nil_of_length_eq_zero (by omega)
      rw [days] at simulated
      obtain ⟨after, step, same⟩ := simulate_cons_eq_ok.mp simulated
      cases same
      obtain ⟨idle, opens, stays⟩ := dayStep_start (aligned_of_mem member) step
      rw [records_ofPortfolio idle]
      constructor
      · intro row bar buys
        obtain ⟨isDay, enters⟩ := (buys_iff valid).mp buys
        rw [days, List.mem_singleton] at isDay
        subst isDay
        rw [opens enters, bought, onToday]
        rfl
      · intro unmet
        rw [stays fun enters => unmet _ _ ((buys_iff valid).mpr ⟨member, enters⟩)]
        rfl

/-! ## The entry of today -/

/-- With recent rows a live run succeeds, and what it reports is an entry or nothing. -/
theorem run_of_recent (store : MemoryStore α) (registry : Registry α)
    (environment : Environment) (valid : strategy.validate = .ok ())
    (single : (rowsOn Snapshot.date today (store.rowsOf strategy.symbol)).length ≤ 1)
    (room : Calendar.firstDay + 5 ≤ today.day) (ahead : today.day + 2 ≤ Calendar.lastDay)
    (some_recent : store.HasRecent strategy.symbol today) :
    ∃ reported, run strategy store.source registry today environment = .ok reported ∧
      (∀ row bar, Buys strategy registry (store.rowsOf strategy.symbol)
          (store.seriesOf strategy.symbol) today row bar →
        reported = [.opening strategy environment today
          ((store.seriesOf strategy.symbol).fillPrice strategy.risk.fillMode today
            bar.close)]) ∧
      ((∀ row bar, ¬ Buys strategy registry (store.rowsOf strategy.symbol)
          (store.seriesOf strategy.symbol) today row bar) →
        reported = []) := by
  obtain ⟨result, success, entered, idle⟩ := records_today valid single registry
    (store.seriesOf strategy.symbol) environment
  refine ⟨records strategy environment result, ?_, entered, idle⟩
  rw [run_of_rows store single room ahead some_recent, success]
  rfl

/-- A live run has no data exactly if no successful row of its symbol is of the last
five days or today.  Otherwise it reports one open record, of today at the price of
its fill, if today is bought (`Buys`), and nothing else.  No record says anything of
an exit, and whatever else a store holds than the rows of today and the bars of
today and tomorrow makes no difference, as long as there is data. -/
theorem run_is_entry (store : MemoryStore α) (strategy : Strategy α) (registry : Registry α)
    (today : Date) (environment : Environment) (valid : strategy.validate = .ok ())
    (single : (rowsOn Snapshot.date today (store.rowsOf strategy.symbol)).length ≤ 1)
    (room : Calendar.firstDay + 5 ≤ today.day) (ahead : today.day + 2 ≤ Calendar.lastDay) :
    (run strategy store.source registry today environment =
          .error (.noData strategy.symbol) ↔
        ¬ store.HasRecent strategy.symbol today) ∧
      (∀ row bar, Buys strategy registry (store.rowsOf strategy.symbol)
          (store.seriesOf strategy.symbol) today row bar →
        run strategy store.source registry today environment =
          .ok [.opening strategy environment today
            ((store.seriesOf strategy.symbol).fillPrice strategy.risk.fillMode today
              bar.close)]) ∧
      (store.HasRecent strategy.symbol today →
        (∀ row bar, ¬ Buys strategy registry (store.rowsOf strategy.symbol)
          (store.seriesOf strategy.symbol) today row bar) →
        run strategy store.source registry today environment = .ok []) ∧
      (∀ reported, run strategy store.source registry today environment = .ok reported →
        ∀ record ∈ reported, record.IsOpen) ∧
      ∀ other, MemoryStore.SameToday strategy.symbol today store other →
        (other.HasRecent strategy.symbol today ↔ store.HasRecent strategy.symbol today) →
        run strategy other.source registry today environment =
          run strategy store.source registry today environment := by
  have reports := run_of_recent store registry environment valid single room ahead
  refine ⟨⟨?_, run_of_no_rows store room⟩, ?_, ?_, ?_, ?_⟩
  · intro failed some_recent
    obtain ⟨reported, success, _⟩ := reports some_recent
    cases success.symm.trans failed
  · intro row bar buys
    obtain ⟨reported, success, entered, _⟩ := reports buys.hasRecent
    rw [success, entered row bar buys]
  · intro some_recent unmet
    obtain ⟨reported, success, _, idle⟩ := reports some_recent
    rw [success, idle unmet]
  · intro reported success record member
    by_cases some_recent : store.HasRecent strategy.symbol today
    · obtain ⟨given, answered, entered, idle⟩ := reports some_recent
      cases answered.symm.trans success
      by_cases bought : ∃ row bar, Buys strategy registry (store.rowsOf strategy.symbol)
          (store.seriesOf strategy.symbol) today row bar
      · obtain ⟨row, bar, buys⟩ := bought
        rw [entered row bar buys, List.mem_singleton] at member
        rw [member]
        exact TradeRecord.opening_isOpen _ _ _ _
      · rw [idle fun row bar buys => bought ⟨row, bar, buys⟩] at member
        cases member
    · cases (run_of_no_rows store room some_recent).symm.trans success
  · intro other same sameData
    exact run_congr_today single room ahead same sameData

end Live

namespace Sample

/-- A bar of doubles of a day on which the price went from one to another. -/
def tradedBar (date : Date) (opening close : Float) : PriceBar Float :=
  ⟨"XYZ", date, opening, opening, opening, close, 1000⟩

/-- Buys on a score of 70 at the next opening, unless it has just left or lost. -/
def careful : Strategy Float :=
  { graded with
    risk := { RiskSettings.default with maxDailyLoss := some 0.02, cooldownDays := 3 } }

/-- A good score on the second day, and bars up to the third. -/
def liveStore : MemoryStore Float :=
  ⟨[scoredRow 80], [tradedBar thirdDay 103 104, tradedBar secondDay 100 102]⟩

def ninthDay : Date := { day := 8 }

theorem careful_valid : careful.validate = .ok () :=
  eq_ok_of_toBool (by decide +kernel)

theorem liveStore_bar (date : Date) (bar : PriceBar Float)
    (last : (rowsOn PriceBar.date date liveStore.bars).getLast? = some bar) :
    (liveStore.seriesOf "XYZ").get? date = some bar := by
  rw [MemoryStore.seriesOf, PriceSeries.get?_ofBars]
  exact last

theorem liveStore_fillPrice :
    (liveStore.seriesOf "XYZ").fillPrice .nextOpen secondDay 102 = 103 := by
  have next : (liveStore.seriesOf "XYZ").nextDay? secondDay =
      some (tradedBar thirdDay 103 104) :=
    liveStore_bar thirdDay _ rfl
  rw [PriceSeries.fillPrice, PriceSeries.nextPrice?, next]
  exact if_pos (by decide +kernel)

theorem liveStore_buys : Live.Buys careful Registry.builtin (liveStore.rowsOf "XYZ")
    (liveStore.seriesOf "XYZ") secondDay (scoredRow 80) (tradedBar secondDay 100 102) where
  held := List.mem_singleton_self _
  dated := rfl
  traded := liveStore_bar secondDay _ rfl
  signalled := eq_ok_of_toOption (by decide +kernel)
  funded := by decide +kernel
  priced := by
    change 0 < (liveStore.seriesOf "XYZ").fillPrice .nextOpen secondDay 102
    rw [liveStore_fillPrice]
    decide +kernel

end Sample

namespace Live

/-- Bought on the second day at the opening of the third; nothing on the third,
which has a bar but no row; no data on the ninth, a week after the only row. -/
theorem run_is_entry_nextOpen :
    Sample.careful.validate = .ok () ∧
      run Sample.careful Sample.liveStore.source Registry.builtin Sample.secondDay .paper =
        .ok [.opening Sample.careful .paper Sample.secondDay 103] ∧
      run Sample.careful Sample.liveStore.source Registry.builtin Sample.thirdDay .paper =
        .ok [] ∧
      run Sample.careful Sample.liveStore.source Registry.builtin Sample.ninthDay .paper =
        .error (.noData "XYZ") := by
  obtain ⟨_, buys, _⟩ := run_is_entry Sample.liveStore Sample.careful Registry.builtin
    Sample.secondDay .paper Sample.careful_valid (by decide) (by decide) (by decide)
  obtain ⟨_, _, idle, _⟩ := run_is_entry Sample.liveStore Sample.careful Registry.builtin
    Sample.thirdDay .paper Sample.careful_valid (by decide) (by decide) (by decide)
  obtain ⟨noData, _⟩ := run_is_entry Sample.liveStore Sample.careful Registry.builtin
    Sample.ninthDay .paper Sample.careful_valid (by decide) (by decide) (by decide)
  refine ⟨Sample.careful_valid, ?_, ?_, noData.mpr (by decide)⟩
  · rw [buys _ _ Sample.liveStore_buys]
    exact congrArg (fun price => Except.ok [TradeRecord.opening _ _ _ price])
      Sample.liveStore_fillPrice
  · apply idle (by decide)
    intro row bar bought
    have undated : ∀ row ∈ Sample.liveStore.rowsOf "XYZ", row.date ≠ Sample.thirdDay := by
      decide
    exact undated row bought.held bought.dated

end Live

end DailySignals
