import DailySignals.Proofs.Backtest.Gaps
import DailySignals.Proofs.Backtest.Stored

/-!
# A run loses nothing by what it leaves out

What is loaded for a run is a part of what there is: the rows of the period, and
the bars from its first day to a little past its last.  A run looks at its rows
and bars date by date (`rowsOn`), at rows and bars of the period and at the bar
of the calendar day after one of its days.  So it is known from the rows and
bars of these dates, each date's in their order, and none of these are left out.
-/

set_option autoImplicit false

namespace DailySignals

variable {α : Type}

theorem Source.rowsOn_newestFirst (date : Date) (rows : List (Snapshot α)) :
    rowsOn Snapshot.date date (Source.newestFirst rows) = rowsOn Snapshot.date date rows :=
  rowsOn_mergeSort_descending Snapshot.date date rows

theorem Source.mostRecent_of_length_le {limit : Nat} {rows : List (Snapshot α)}
    (few : rows.length ≤ limit) : mostRecent (some limit) rows = newestFirst rows := by
  apply List.take_of_length_le
  rw [newestFirst, List.length_mergeSort]
  exact few

/-! ## What is loaded -/

namespace RunInputs

/-- Where the calendar goes on, bars are read to the end of the lookahead. -/
theorem day_horizon {finish : Date} (room : finish.day + lookaheadDays ≤ Calendar.lastDay) :
    (horizon finish).day = finish.day + lookaheadDays := by
  have from_first := finish.first_le
  have reached : finish.addDays? lookaheadDays =
      some ⟨finish.day + lookaheadDays, by omega, room⟩ :=
    Date.addDays?_of_day_eq rfl
  rw [horizon, reached]
  rfl

theorem get?_nearBars {start finish date : Date} (after : start ≤ date)
    (before : date ≤ horizon finish) (bars : List (PriceBar α)) :
    (PriceSeries.ofBars (nearBars start finish bars)).get? date =
      (PriceSeries.ofBars bars).get? date := by
  have kept : (decide (start ≤ date) && decide (date ≤ horizon finish)) = true := by
    rw [decide_eq_true after, decide_eq_true before]
    rfl
  exact PriceSeries.get?_ofBars_filter
    (fun date => decide (start ≤ date) && decide (date ≤ horizon finish)) kept bars

/-- The day after a day of the period lies within the lookahead. -/
theorem nextDay?_nearBars {start finish date : Date} (after : start ≤ date)
    (before : date ≤ finish) (room : finish.day + lookaheadDays ≤ Calendar.lastDay)
    (bars : List (PriceBar α)) :
    (PriceSeries.ofBars (nearBars start finish bars)).nextDay? date =
      (PriceSeries.ofBars bars).nextDay? date := by
  rw [PriceSeries.nextDay?, PriceSeries.nextDay?]
  cases reached : date.addDays? 1 with
  | none => rfl
  | some next =>
      have nextDay : next.day = date.day + 1 := Date.day_of_addDays? reached
      have ahead : lookaheadDays = 2 := rfl
      rw [Date.le_iff] at after before
      apply get?_nearBars
      · rw [Date.le_iff]
        omega
      · rw [Date.le_iff, day_horizon room]
        omega

end RunInputs

namespace MemoryStore

variable (store : MemoryStore α)

/-- The successful rows of a symbol, as they are held. -/
def rowsOf (symbol : String) : List (Snapshot α) :=
  store.snapshots.filter fun row => row.symbol == symbol && row.success

/-- The bars of a symbol, as they are held. -/
def barsOf (symbol : String) : List (PriceBar α) :=
  store.bars.filter fun bar => bar.symbol == symbol

/-- What a run asks for are the successful rows of its period. -/
theorem filter_includes (symbol : String) (period : Period α) :
    store.snapshots.filter (RunInputs.query symbol period.start period.finish).includes =
      (store.rowsOf symbol).filter fun row => period.contains row.date := by
  rw [rowsOf, List.filter_filter]
  apply List.filter_congr
  intro row _
  change ((row.symbol == symbol && row.success) && decide (period.start ≤ row.date) &&
    decide (row.date ≤ period.finish)) = _
  rw [Bool.and_assoc, Bool.and_comm, Period.contains]

/-- The rows of the period are all given if they are not more than a run reads. -/
theorem history_eq_newestFirst {symbol : String} {period : Period α}
    (few : ((store.rowsOf symbol).filter fun row => period.contains row.date).length ≤
      RunInputs.historyLimit) :
    store.history (RunInputs.query symbol period.start period.finish) =
      Source.newestFirst ((store.rowsOf symbol).filter fun row => period.contains row.date) := by
  rw [history, filter_includes]
  exact Source.mostRecent_of_length_le few

theorem ofBars_prices (symbol : String) :
    PriceSeries.ofBars (store.prices symbol) = PriceSeries.ofBars (store.barsOf symbol) := by
  have sorted : PriceBar.inDateOrder (store.prices symbol) = store.prices symbol :=
    mergeSort_of_dateOrdered PriceBar.date (dateOrdered_mergeSort PriceBar.date _)
  simp only [PriceSeries.ofBars, sorted]
  rfl

end MemoryStore

namespace Backtest

variable [Arithmetic α]

/-- A run over what is loaded from memory is the run over all that is held of the
symbol, as long as its period has rows, not more than a run reads, and ends two
days before the calendar does. -/
theorem run_loaded (store : MemoryStore α) (symbol : String) (period : Period α)
    (strategy : Strategy α) (registry : Registry α)
    (room : period.finish.day + 2 ≤ Calendar.lastDay)
    (some_rows :
      1 ≤ ((store.rowsOf symbol).filter fun row => period.contains row.date).length)
    (few : ((store.rowsOf symbol).filter fun row => period.contains row.date).length ≤
      RunInputs.historyLimit) :
    ∃ inputs,
      RunInputs.load store.source symbol period.start period.finish = .ok inputs ∧
        run strategy period inputs.history inputs.series registry =
          run strategy period (store.rowsOf symbol) (.ofBars (store.barsOf symbol)) registry := by
  have given := store.history_eq_newestFirst few
  have found : store.history (RunInputs.query symbol period.start period.finish) ≠ [] := by
    rw [given, ← List.length_pos_iff, Source.newestFirst, List.length_mergeSort]
    exact some_rows
  refine ⟨_, RunInputs.load_of_answers rfl found rfl, ?_⟩
  apply run_congr
  · -- three stable sorts leave the rows of one date in the order in which they are held
    intro date inside
    rw [Snapshot.rowsOn_inDateOrder, given, Source.rowsOn_newestFirst,
      rowsOn_filter Snapshot.date period.contains inside]
  · intro date inside
    simp only [Period.contains, Bool.and_eq_true, decide_eq_true_eq] at inside
    have near : date ≤ RunInputs.horizon period.finish :=
      Int.le_trans inside.2 (RunInputs.le_horizon _)
    rw [RunInputs.get?_nearBars inside.1 near, store.ofBars_prices]
  · intro date inside
    simp only [Period.contains, Bool.and_eq_true, decide_eq_true_eq] at inside
    rw [RunInputs.nextDay?_nearBars inside.1 inside.2 room, store.ofBars_prices]

/-- Of three days that are held, two are run. -/
theorem run_loaded_sample :
    ∃ inputs result,
      RunInputs.load Sample.store.source "XYZ" Sample.firstDay Sample.secondDay = .ok inputs ∧
        run Sample.strategy ⟨Sample.firstDay, Sample.secondDay, 10000⟩ inputs.history
          inputs.series Registry.builtin = .ok result ∧
        run Sample.strategy ⟨Sample.firstDay, Sample.secondDay, 10000⟩
          (Sample.store.rowsOf "XYZ") (.ofBars (Sample.store.barsOf "XYZ")) Registry.builtin =
            .ok result := by
  obtain ⟨inputs, loaded, same⟩ := run_loaded Sample.store "XYZ"
    ⟨Sample.firstDay, Sample.secondDay, 10000⟩ Sample.strategy Registry.builtin (by decide)
    (by decide) (by decide)
  obtain ⟨_, _, success⟩ := run_complete Sample.strategy_valid
    (eq_ok_of_toBool (by decide +kernel) :
      Period.validate ⟨Sample.firstDay, Sample.secondDay, (10000 : Rat)⟩ = .ok ())
    (Sample.store.rowsOf "XYZ") (.ofBars (Sample.store.barsOf "XYZ")) Registry.builtin
  exact ⟨inputs, _, loaded, same.trans success, success⟩

end Backtest

end DailySignals
