import DailySignals.Proofs.Backtest.Stored
import DailySignals.Proofs.Forward.Completion

/-!
# The order of delivery does not matter

Sources promise no order of what they deliver.  A run and a study put their rows
in date order first, and a price series its bars; where no two rows and no two
bars share a date this leaves nothing of the order in which they came.
-/

set_option autoImplicit false

namespace DailySignals

variable {α : Type}

theorem Snapshot.inDateOrder_congr_of_perm {rows rows' : List (Snapshot α)}
    (same : rows.Perm rows') (distinct : (rows'.map (·.date)).Nodup) :
    inDateOrder rows = inDateOrder rows' :=
  mergeSort_congr_of_perm Snapshot.date same distinct

theorem PriceSeries.ofBars_congr_of_perm {bars bars' : List (PriceBar α)}
    (same : bars.Perm bars') (distinct : (bars'.map (·.date)).Nodup) :
    ofBars bars = ofBars bars' := by
  have sorted : PriceBar.inDateOrder bars = PriceBar.inDateOrder bars' :=
    mergeSort_congr_of_perm PriceBar.date same distinct
  simp only [ofBars, sorted]

theorem Backtest.tradingDays_congr_of_perm {period : Period α}
    {history history' : List (Snapshot α)} (series : PriceSeries α)
    (same : history.Perm history') (distinct : (history'.map (·.date)).Nodup) :
    tradingDays period history series = tradingDays period history' series := by
  rw [tradingDays, tradingDays, Snapshot.inDateOrder_congr_of_perm same distinct]

/-- The days of a study are its successful rows, whose dates are distinct if all are. -/
theorem ForwardStudy.studyDays_congr_of_perm {history history' : List (Snapshot α)}
    (same : history.Perm history') (distinct : (history'.map (·.date)).Nodup) :
    studyDays history = studyDays history' := by
  have successful : ((history'.filter (·.success)).map (·.date)).Nodup :=
    (List.filter_sublist.map _).nodup distinct
  exact Snapshot.inDateOrder_congr_of_perm (same.filter _) successful

variable [Arithmetic α]

/-- A run and a study come out the same in whatever order the rows and the bars
are delivered, as long as no two rows and no two bars share a date. -/
theorem runs_order_independent (strategy : Strategy α) (period : Period α)
    (registry : Registry α) (history history' : List (Snapshot α))
    (bars bars' : List (PriceBar α)) (sameRows : history.Perm history')
    (distinctRows : (history.map (·.date)).Nodup) (sameBars : bars.Perm bars')
    (distinctBars : (bars.map (·.date)).Nodup) :
    Backtest.run strategy period history (.ofBars bars) registry =
        Backtest.run strategy period history' (.ofBars bars') registry ∧
      ∀ requested, ForwardStudy.run strategy history requested registry =
        ForwardStudy.run strategy history' requested registry := by
  have rows : (history'.map (·.date)).Nodup := (sameRows.map _).nodup_iff.mp distinctRows
  have sameSeries : PriceSeries.ofBars bars = PriceSeries.ofBars bars' :=
    PriceSeries.ofBars_congr_of_perm sameBars ((sameBars.map _).nodup_iff.mp distinctBars)
  constructor
  · rw [sameSeries, Backtest.run, Backtest.run,
      Backtest.tradingDays_congr_of_perm (.ofBars bars') sameRows rows]
  · intro requested
    rw [ForwardStudy.run, ForwardStudy.run,
      ForwardStudy.studyDays_congr_of_perm sameRows rows]

/-- The sample as a store holds it, and with its rows and bars in another order. -/
theorem runs_order_independent_sample :
    Sample.store.snapshots.Perm Sample.history ∧
      (Sample.store.snapshots.map (·.date)).Nodup ∧
      (Sample.store.bars.map (·.date)).Nodup ∧
      ∃ result study,
        Backtest.run Sample.strategy Sample.period Sample.store.snapshots
          (.ofBars Sample.store.bars) Registry.builtin = .ok result ∧
        Backtest.run Sample.strategy Sample.period Sample.history
          (.ofBars Sample.store.bars.reverse) Registry.builtin = .ok result ∧
        ForwardStudy.run Sample.strategy Sample.store.snapshots [1, 2] Registry.builtin =
          .ok study ∧
        ForwardStudy.run Sample.strategy Sample.history [1, 2] Registry.builtin = .ok study := by
  have same : Sample.store.snapshots.Perm Sample.history :=
    @List.perm_append_comm _ [Sample.snapshot Sample.thirdDay 4] _
  have rows : (Sample.store.snapshots.map (·.date)).Nodup := by decide
  have bars : (Sample.store.bars.map (·.date)).Nodup := by decide
  obtain ⟨_, _, success⟩ := Backtest.run_complete Sample.strategy_valid Sample.period_valid
    Sample.store.snapshots (.ofBars Sample.store.bars) Registry.builtin
  obtain ⟨study, studied⟩ := ForwardStudy.run_complete Sample.strategy_valid
    Sample.store.snapshots [1, 2] Registry.builtin
  obtain ⟨sameRun, sameStudy⟩ := runs_order_independent Sample.strategy Sample.period
    Registry.builtin Sample.store.snapshots Sample.history Sample.store.bars
    Sample.store.bars.reverse same rows (List.reverse_perm _).symm bars
  exact ⟨same, rows, bars, _, study, success, sameRun.symm.trans success, studied,
    (sameStudy [1, 2]).symm.trans studied⟩

end DailySignals
