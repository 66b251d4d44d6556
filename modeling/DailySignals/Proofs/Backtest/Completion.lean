import DailySignals.Proofs.Backtest.Simulation
import DailySignals.Proofs.ExitPolicy

/-!
# A validated run comes to its end

The exit and the entry step of a day read scores and nothing else that can fail.
So no day of a strategy that can be scored fails, and a run with valid settings
has a result: what can go wrong with it is known from the settings alone.
-/

set_option autoImplicit false

namespace DailySignals

variable {α : Type} [Arithmetic α]

namespace Backtest

variable {strategy : Strategy α}

/-- The exit of a day that starts with a position: what the day calls for, if
that is permitted. -/
def dueExit? (strategy : Strategy α) (registry : Registry α) (day : TradingDay α)
    (position : Position α) : Option ExitReason :=
  (Exit.precedence.find?
    (Exit.called strategy registry day.snapshot position day.bar.close)).filter
      (exitPermitted strategy.risk (position.holdDays day.date))

theorem exitReason?_eq_due {registry : Registry α} {day : TradingDay α} {position : Position α}
    (scorable : strategy.Scorable) :
    exitReason? strategy registry day position =
      .ok (dueExit? strategy registry day position) := by
  rw [exitReason?, Exit.decision_eq_find? scorable]
  rfl

theorem exitStep_complete (scorable : strategy.Scorable) (registry : Registry α)
    (series : PriceSeries α) (day : TradingDay α) (portfolio : Portfolio α) :
    ∃ after, exitStep strategy registry series day portfolio = .ok after := by
  cases held : portfolio.position with
  | none => exact ⟨_, exitStep_eq_ok.mpr (.flat held)⟩
  | some position =>
      have decided : exitReason? strategy registry day position =
          .ok (dueExit? strategy registry day position) := exitReason?_eq_due scorable
      cases due : dueExit? strategy registry day position with
      | none =>
          rw [due] at decided
          exact ⟨_, exitStep_eq_ok.mpr (.kept held decided)⟩
      | some reason =>
          rw [due] at decided
          exact ⟨_, exitStep_eq_ok.mpr (.closed held decided)⟩

theorem entryStep_complete (scorable : strategy.Scorable) (registry : Registry α)
    (series : PriceSeries α) (day : TradingDay α) (dayStart : α) (portfolio : Portfolio α) :
    ∃ after, entryStep strategy registry series day dayStart portfolio = .ok after := by
  obtain ⟨signal, signalled⟩ := Strategy.entrySignal_complete scorable registry day.snapshot
  cases held : portfolio.position with
  | some position => exact ⟨_, entryStep_eq_ok.mpr (.occupied held)⟩
  | none =>
      cases barred : entryBlocked strategy.risk portfolio day.snapshot.date dayStart with
      | true => exact ⟨_, entryStep_eq_ok.mpr (.blocked held barred)⟩
      | false =>
          cases signal with
          | false => exact ⟨_, entryStep_eq_ok.mpr (.quiet held barred signalled)⟩
          | true =>
              cases bought : newPosition? strategy series day.bar portfolio.equity with
              | none => exact ⟨_, entryStep_eq_ok.mpr (.unfilled held barred signalled bought)⟩
              | some position =>
                  exact ⟨_, entryStep_eq_ok.mpr (.opened held barred signalled bought)⟩

theorem dayStep_complete (scorable : strategy.Scorable) (registry : Registry α)
    (series : PriceSeries α) (day : TradingDay α) (portfolio : Portfolio α) :
    ∃ after, dayStep strategy registry series portfolio day = .ok after := by
  obtain ⟨afterExit, exited⟩ := exitStep_complete scorable registry series day portfolio
  obtain ⟨afterEntry, entered⟩ := entryStep_complete scorable registry series day
    portfolio.equity afterExit
  exact ⟨_, dayStep_eq_ok.mpr
    ⟨afterExit, afterEntry, exitStep_eq_ok.mp exited, entryStep_eq_ok.mp entered, rfl⟩⟩

theorem simulate_complete (scorable : strategy.Scorable) (registry : Registry α)
    (series : PriceSeries α) (days : List (TradingDay α)) (portfolio : Portfolio α) :
    ∃ final, simulate strategy registry series portfolio days = .ok final := by
  induction days generalizing portfolio with
  | nil => exact ⟨portfolio, rfl⟩
  | cons day rest ih =>
      obtain ⟨next, step⟩ := dayStep_complete scorable registry series day portfolio
      obtain ⟨final, finished⟩ := ih next
      exact ⟨final, simulate_cons_eq_ok.mpr ⟨next, step, finished⟩⟩

/-- Valid settings have a result, which is that of the simulated account. -/
theorem run_complete {period : Period α} (strategyValid : strategy.validate = .ok ())
    (periodValid : period.validate = .ok ()) (history : List (Snapshot α))
    (series : PriceSeries α) (registry : Registry α) :
    ∃ final, simulate strategy registry series (Portfolio.start period.equity)
        (tradingDays period history series) = .ok final ∧
      run strategy period history series registry = .ok (ofPortfolio final period.equity) := by
  obtain ⟨final, simulated⟩ := simulate_complete (Strategy.scorable_of_validate strategyValid)
    registry series (tradingDays period history series) (Portfolio.start period.equity)
  exact ⟨final, simulated, run_eq_ok.mpr ⟨strategyValid, periodValid, final, simulated, rfl⟩⟩

/-- A run fails on its settings or not at all, and on the strategy first. -/
theorem run_eq_error {period : Period α} {history : List (Snapshot α)} {series : PriceSeries α}
    {registry : Registry α} {failure : Failure α} :
    run strategy period history series registry = .error failure ↔
      (∃ defect, strategy.validate = .error defect ∧
          failure = .invalid (.strategy defect)) ∨
        strategy.validate = .ok () ∧
          ∃ defect, period.validate = .error defect ∧ failure = .invalid (.period defect) := by
  constructor
  · intro failed
    rcases bind_eq_error.mp failed with refused | ⟨_, strategyValid, later⟩
    · exact .inl (mapError_eq_error.mp refused)
    · rw [mapError_eq_ok] at strategyValid
      rcases bind_eq_error.mp later with refused | ⟨_, periodValid, _⟩
      · exact .inr ⟨strategyValid, mapError_eq_error.mp refused⟩
      · rw [mapError_eq_ok] at periodValid
        obtain ⟨_, _, success⟩ := run_complete strategyValid periodValid history series registry
        cases success.symm.trans failed
  · rintro (⟨defect, refused, rfl⟩ | ⟨strategyValid, defect, refused, rfl⟩)
    · rw [run, refused]
      rfl
    · rw [run, strategyValid, refused]
      rfl

end Backtest

/-! ## A sample run

Three days with a position bought, sold and taken up again on one day, and sold
for good, so that the laws of runs can be read on a case of them. -/

namespace Sample

def firstDay : Date := { day := 0 }

def secondDay : Date := { day := 1 }

def thirdDay : Date := { day := 2 }

/-- A successful snapshot that is known by its date and score alone. -/
def snapshot (date : Date) (score : Rat) : Snapshot Rat where
  symbol := "XYZ"
  market := ""
  industry := ""
  date := date
  close := 100
  change := 0
  changeRate := 0
  return5 := none
  return20 := none
  return60 := none
  ma5 := none
  ma10 := none
  ma20 := none
  ma60 := none
  deviation20 := none
  high20 := none
  low20 := none
  rangePos20 := none
  volumeMultiple := none
  amplitude := none
  avgAmplitude20 := none
  score := score
  tags := []
  success := true
  errorReason := none

/-- A bar of a day on which the price did not move. -/
def bar (date : Date) (price : Rat) : PriceBar Rat :=
  ⟨"XYZ", date, price, price, price, price, 1000⟩

/-- Buys on scores from one to three and sells on scores above two. -/
def strategy : Strategy Rat where
  name := "sample"
  description := ""
  symbol := "XYZ"
  signals := .conditions (.all [.numeric .score (.between 1 3)])
    (.all [.numeric .score (.above 2)])
  risk := .frictionless

def period : Period Rat := ⟨firstDay, thirdDay, 10000⟩

def history : List (Snapshot Rat) :=
  [snapshot secondDay 3, snapshot firstDay 1, snapshot thirdDay 4]

def series : PriceSeries Rat :=
  .ofBars [bar firstDay 100, bar secondDay 110, bar thirdDay 121]

def days : List (TradingDay Rat) :=
  [⟨snapshot firstDay 1, bar firstDay 100⟩, ⟨snapshot secondDay 3, bar secondDay 110⟩,
    ⟨snapshot thirdDay 4, bar thirdDay 121⟩]

theorem strategy_valid : strategy.validate = .ok () :=
  eq_ok_of_toBool (by decide +kernel)

theorem period_valid : period.validate = .ok () :=
  eq_ok_of_toBool (by decide +kernel)

theorem history_inDateOrder : Snapshot.inDateOrder history =
    [snapshot firstDay 1, snapshot secondDay 3, snapshot thirdDay 4] :=
  mergeSort_eq_of_perm Snapshot.date (.swap _ _ _) (by decide)

theorem series_bars : series.bars = [bar firstDay 100, bar secondDay 110, bar thirdDay 121] :=
  mergeSort_eq_of_perm PriceBar.date (.refl _) (by decide)

theorem tradingDays_eq : Backtest.tradingDays period history series = days := by
  unfold Backtest.tradingDays PriceSeries.get?
  rw [history_inDateOrder, series_bars]
  rfl

end Sample

end DailySignals
