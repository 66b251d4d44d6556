import DailySignals.Proofs.Backtest.Completion
import DailySignals.Trading.Forward

/-!
# A study of a valid strategy comes to its end

A study reads the same rules as a run, on more days and in more places: the
entry rules and the exit rules for every event, and both again for the trades.
So validation lets no day of a study fail either, and what can go wrong with a
study or with a run is known from the settings alone.
-/

set_option autoImplicit false

namespace DailySignals

variable {α : Type} [Arithmetic α]

namespace ForwardStudy

variable {strategy : Strategy α}

theorem scores_complete (scorable : strategy.Scorable) (registry : Registry α)
    (snapshot : Snapshot α) : ∃ found, scores strategy registry snapshot = .ok found := by
  unfold scores
  cases kind : strategy.signals with
  | conditions buy sell =>
      obtain ⟨_, signalled⟩ := Strategy.entrySignal_complete scorable registry snapshot
      simp only [signalled]
      exact ⟨_, rfl⟩
  | scoring rules =>
      obtain ⟨_, entryComputed, _⟩ := scorable.entryScore kind registry snapshot
      obtain ⟨_, exitScored⟩ := scorable.exitScore kind registry snapshot
      simp only [entryComputed, exitScored, bind, Except.bind, pure, Except.pure]
      split
      · exact ⟨_, rfl⟩
      · exact ⟨_, rfl⟩

theorem event_complete (scorable : strategy.Scorable) (registry : Registry α)
    (horizons : List Nat) (days : List (Snapshot α)) (index : Nat) (snapshot : Snapshot α) :
    ∃ found, event strategy registry horizons days index snapshot = .ok found := by
  obtain ⟨_, scored⟩ := scores_complete scorable registry snapshot
  rw [event, scored]
  exact ⟨_, rfl⟩

theorem eventsFrom_complete (scorable : strategy.Scorable) (registry : Registry α)
    (horizons : List Nat) (days : List (Snapshot α)) (index : Nat)
    (following : List (Snapshot α)) :
    ∃ events, eventsFrom strategy registry horizons days index following = .ok events := by
  induction following generalizing index with
  | nil => exact ⟨[], rfl⟩
  | cons day following ih =>
      obtain ⟨first, found⟩ := event_complete scorable registry horizons days index day
      obtain ⟨others, rest⟩ := ih (index + 1)
      rw [eventsFrom, found, rest]
      exact ⟨first :: others, rfl⟩

theorem tradesFrom_complete (scorable : strategy.Scorable) (registry : Registry α)
    (last : Option (Snapshot α)) (held : Option (Position α))
    (days : List (Snapshot α × Bool)) :
    ∃ trades, tradesFrom strategy registry last held days = .ok trades := by
  induction days generalizing held with
  | nil =>
      cases held with
      | none => exact ⟨_, rfl⟩
      | some position => exact ⟨_, rfl⟩
  | cons day following ih =>
      cases held with
      | none =>
          rw [tradesFrom]
          exact ih _
      | some position =>
          rw [tradesFrom, Exit.decision_eq_find? scorable]
          cases Exit.precedence.find?
              (Exit.called strategy registry day.1 position day.1.close) with
          | none => exact ih _
          | some reason =>
              obtain ⟨others, rest⟩ := ih none
              simp only [rest]
              exact ⟨_, rfl⟩

theorem run_complete (valid : strategy.validate = .ok ()) (history : List (Snapshot α))
    (requested : List Nat) (registry : Registry α) :
    ∃ study, run strategy history requested registry = .ok study := by
  have scorable := Strategy.scorable_of_validate valid
  obtain ⟨events, eventful⟩ : ∃ events, eventsOf strategy registry
      (effectiveHorizons requested) (studyDays history) = .ok events :=
    eventsFrom_complete scorable registry _ _ 0 _
  obtain ⟨trades, traded⟩ := tradesFrom_complete scorable registry (studyDays history).getLast?
    none ((studyDays history).zip (events.map (·.triggered)))
  rw [run, bind_of_ok (mapError_eq_ok.mpr valid)]
  simp only
  rw [bind_of_ok (mapError_eq_ok.mpr eventful), bind_of_ok (mapError_eq_ok.mpr traded)]
  exact ⟨_, rfl⟩

/-- What a study is made of. -/
theorem run_eq_ok {history : List (Snapshot α)} {requested : List Nat} {registry : Registry α}
    {study : ForwardStudy α} :
    run strategy history requested registry = .ok study ↔
      strategy.validate = .ok () ∧ ∃ events trades,
        eventsOf strategy registry (effectiveHorizons requested) (studyDays history) =
            .ok events ∧
          tradesFrom strategy registry (studyDays history).getLast? none
              ((studyDays history).zip (events.map (·.triggered))) = .ok trades ∧
          study = ⟨events, (effectiveHorizons requested).filterMap (horizonStatistics events),
            trades, summarize trades⟩ := by
  simp only [run, bind_eq_ok, mapError_eq_ok, pure_eq_ok]
  constructor
  · rintro ⟨_, valid, events, eventful, trades, traded, rfl⟩
    exact ⟨valid, events, trades, eventful, traded, rfl⟩
  · rintro ⟨valid, events, trades, eventful, traded, rfl⟩
    exact ⟨(), valid, events, eventful, trades, traded, rfl⟩

/-- A study fails on its strategy or not at all. -/
theorem run_eq_error {history : List (Snapshot α)} {requested : List Nat}
    {registry : Registry α} {failure : Failure α} :
    run strategy history requested registry = .error failure ↔
      ∃ defect, strategy.validate = .error defect ∧ failure = .invalid (.strategy defect) := by
  constructor
  · intro failed
    rcases bind_eq_error.mp failed with refused | ⟨_, valid, _⟩
    · exact mapError_eq_error.mp refused
    · rw [mapError_eq_ok] at valid
      obtain ⟨_, success⟩ := run_complete valid history requested registry
      cases success.symm.trans failed
  · rintro ⟨defect, refused, rfl⟩
    rw [run, refused]
    rfl

end ForwardStudy

/-- A run fails exactly if the strategy or else the period is invalid, and a
study exactly if the strategy is; what they fail with is that defect.  So no
failure to read the parameters of a rule comes out of the days of either. -/
theorem runs_fail_on_settings (strategy : Strategy α) (period : Period α)
    (history : List (Snapshot α)) (series : PriceSeries α) (requested : List Nat)
    (registry : Registry α) :
    (∀ failure, Backtest.run strategy period history series registry = .error failure ↔
      (∃ defect, strategy.validate = .error defect ∧
          failure = .invalid (.strategy defect)) ∨
        strategy.validate = .ok () ∧
          ∃ defect, period.validate = .error defect ∧ failure = .invalid (.period defect)) ∧
      (∀ failure, ForwardStudy.run strategy history requested registry = .error failure ↔
        ∃ defect, strategy.validate = .error defect ∧
          failure = .invalid (.strategy defect)) ∧
      ∀ fault, Backtest.run strategy period history series registry ≠ .error (.params fault) ∧
        ForwardStudy.run strategy history requested registry ≠ .error (.params fault) := by
  refine ⟨fun _ => Backtest.run_eq_error, fun _ => ForwardStudy.run_eq_error, ?_⟩
  intro fault
  constructor
  · intro escaped
    rcases Backtest.run_eq_error.mp escaped with ⟨_, _, different⟩ | ⟨_, _, _, different⟩
    · cases different
    · cases different
  · intro escaped
    obtain ⟨_, _, different⟩ := ForwardStudy.run_eq_error.mp escaped
    cases different

end DailySignals
