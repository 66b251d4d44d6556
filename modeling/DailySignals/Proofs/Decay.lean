import DailySignals.Proofs.Halving
import DailySignals.Proofs.Forward.Schedule
import DailySignals.Proofs.Scoring.Inert

/-!
# Days to enter on and days of decay

A scoring strategy enters on a score that reaches the entry threshold, and gives
up on a score below half of it.  A score can do both only where half of the
threshold lies above the threshold, which takes a negative one.  Otherwise no
position is ever taken up on a day that would close it for decay.
-/

set_option autoImplicit false

namespace DailySignals

section Days

variable {α : Type} [Arithmetic α]

/-- A day on which the entry score has decayed. -/
def Exit.Decayed (strategy : Strategy α) (registry : Registry α) (snapshot : Snapshot α) :
    Prop :=
  signal strategy registry snapshot = .ok (some .signalDecay)

variable {strategy : Strategy α} {rules : ScoringSignals α} {registry : Registry α}
  {snapshot : Snapshot α}

theorem Strategy.entrySignal_iff (kind : strategy.signals = .scoring rules) :
    strategy.entrySignal registry snapshot = .ok true ↔
      ∃ score, registry.score rules.entryRules snapshot = .ok score ∧
        rules.entryThreshold ≤ score := by
  rw [entrySignal, kind]
  change (registry.score rules.entryRules snapshot).map _ = _ ↔ _
  cases registry.score rules.entryRules snapshot with
  | error fault => simp [Except.map]
  | ok score => simp [Except.map]

theorem Exit.decayed_iff (kind : strategy.signals = .scoring rules) {score : α}
    (scored : registry.score rules.entryRules snapshot = .ok score) :
    Decayed strategy registry snapshot ↔ score < rules.entryThreshold * decayFraction := by
  rw [Decayed, signal, kind]
  change (registry.score rules.entryRules snapshot >>= _) = _ ↔ _
  rw [scored, bind_of_ok rfl]
  by_cases low : score < rules.entryThreshold * decayFraction
  · rw [if_pos low]
    exact iff_of_true rfl low
  · rw [if_neg low]
    refine iff_of_false ?_ low
    intro impossible
    obtain ⟨called, _, answer⟩ := bind_eq_ok.mp impossible
    cases called with
    | false => cases answer
    | true => cases answer

theorem Exit.signal_complete (valid : strategy.validate = .ok ()) (registry : Registry α)
    (snapshot : Snapshot α) : ∃ reason, signal strategy registry snapshot = .ok reason := by
  -- the signals look at no position, so any will do
  let position := Position.opened snapshot.date snapshot.close snapshot.close
  have scorable := Strategy.scorable_of_validate valid
  have found := @signal_eq_find? α _ strategy position scorable registry snapshot snapshot.close
  exact ⟨_, found⟩

namespace Backtest

open Portfolio

/-- A run takes up a position on one of its days: after the exit step of the day
nothing is held, and at its end something is. -/
inductive OpensOn (strategy : Strategy α) (registry : Registry α) (series : PriceSeries α)
    (initial : α) (days : List (TradingDay α)) (day : TradingDay α) : Prop where
  | on {index : Nat} {before between after : Portfolio α} {position : Position α}
      (found : days[index]? = some day)
      (earlier : simulate strategy registry series (start initial) (days.take index) =
        .ok before)
      (exited : exitStep strategy registry series day before = .ok between)
      (free : between.position = none)
      (reached : simulate strategy registry series (start initial) (days.take (index + 1)) =
        .ok after)
      (held : after.position = some position)

variable {series : PriceSeries α} {initial : α} {days : List (TradingDay α)}
  {day : TradingDay α}

theorem OpensOn.signalled (opens : OpensOn strategy registry series initial days day) :
    strategy.entrySignal registry day.snapshot = .ok true := by
  cases opens with
  | @on index before between after position found earlier exited free reached held =>
      have upTo : days.take (index + 1) = days.take index ++ [day] := by
        rw [List.take_add_one, found]
        rfl
      rw [upTo, simulate_concat_eq_ok] at reached
      obtain ⟨other, same, step⟩ := reached
      cases Except.ok.inj (earlier.symm.trans same)
      obtain ⟨left, afterEntry, wentOut, entered, rfl⟩ := dayStep_eq_ok.mp step
      cases Except.ok.inj (exited.symm.trans (exitStep_eq_ok.mpr wentOut))
      change afterEntry.position = some position at held
      cases entered with
      | occupied occupied => cases free.symm.trans occupied
      | blocked => cases free.symm.trans held
      | quiet => cases free.symm.trans held
      | unfilled => cases free.symm.trans held
      | opened _ _ signalled _ => exact signalled

end Backtest

namespace ForwardStudy

/-- The trades of a study, as a schedule of its days. -/
theorem schedule_of_run {history : List (Snapshot α)} {requested : List Nat}
    {study : ForwardStudy α} (success : run strategy history requested registry = .ok study) :
    ∃ spans, study.trades = spans.map (tradeOf strategy) ∧
      IsSchedule strategy registry (studyDays history) 0 spans := by
  obtain ⟨valid, events, trades, eventful, traded, rfl⟩ := run_eq_ok.mp success
  obtain ⟨same, signalled⟩ := zip_flags (eventsOf_days eventful)
  obtain ⟨spans, schedule, made⟩ := (tradesFrom_spans (Strategy.scorable_of_validate valid)
    signalled (List.drop_zero.trans same.symm)).1 trades traded
  exact ⟨spans, made, schedule⟩

end ForwardStudy

end Days

variable {strategy : Strategy Float} {rules : ScoringSignals Float} {registry : Registry Float}
  {snapshot : Snapshot Float}

theorem Strategy.isFinite_entryThreshold (valid : strategy.validate = .ok ())
    (kind : strategy.signals = .scoring rules) : rules.entryThreshold.isFinite = true := by
  obtain ⟨_, _, signalsValid, _⟩ := validate_eq_ok.mp valid
  rw [kind] at signalsValid
  exact (validateSignals_scoring_eq_ok.mp signalsValid).2.1.1

/-- On a day to enter on, a score below half of the threshold takes a negative
threshold. -/
theorem Exit.decayed_of_entry_iff (valid : strategy.validate = .ok ())
    (kind : strategy.signals = .scoring rules)
    (enters : strategy.entrySignal registry snapshot = .ok true) :
    Decayed strategy registry snapshot ↔
      rules.entryThreshold < 0 ∧ ∃ score,
        registry.score rules.entryRules snapshot = .ok score ∧
        score < rules.entryThreshold * decayFraction := by
  obtain ⟨score, scored, reached⟩ := (Strategy.entrySignal_iff kind).mp enters
  have finite := Strategy.isFinite_entryThreshold valid kind
  rw [decayed_iff kind scored]
  constructor
  · intro low
    refine ⟨?_, score, scored, low⟩
    by_contra nonneg
    exact Double.not_lt_half finite nonneg reached low
  · rintro ⟨_, other, same, low⟩
    cases Except.ok.inj (scored.symm.trans same)
    exact low

theorem Exit.not_decayed_of_entry (valid : strategy.validate = .ok ())
    (kind : strategy.signals = .scoring rules) (nonneg : ¬ rules.entryThreshold < 0)
    (enters : strategy.entrySignal registry snapshot = .ok true) :
    ¬ Decayed strategy registry snapshot :=
  fun decayed => nonneg ((decayed_of_entry_iff valid kind enters).mp decayed).1

/-- A strategy whose entry threshold is not negative never takes a day to enter on
for a day of decay, so neither a run nor a study takes up a position on a day that
would close it for decay.  With a negative threshold the days that are both are
those with a score below half of it, and a score of the threshold itself makes
one. -/
theorem entry_never_decayed (strategy : Strategy Float) (rules : ScoringSignals Float)
    (valid : strategy.validate = .ok ()) (kind : strategy.signals = .scoring rules)
    (registry : Registry Float) :
    (∀ snapshot, strategy.entrySignal registry snapshot = .ok true →
        ∃ reason, Exit.signal strategy registry snapshot = .ok reason ∧
          (reason = some .signalDecay ↔ rules.entryThreshold < 0 ∧ ∃ score,
            registry.score rules.entryRules snapshot = .ok score ∧
            score < rules.entryThreshold * Exit.decayFraction)) ∧
      (rules.entryThreshold < 0 → ∀ snapshot,
        registry.score rules.entryRules snapshot = .ok rules.entryThreshold →
          strategy.entrySignal registry snapshot = .ok true ∧
          Exit.Decayed strategy registry snapshot) ∧
      (¬ rules.entryThreshold < 0 →
        (∀ period history series day,
          Backtest.OpensOn strategy registry series period.equity
              (Backtest.tradingDays period history series) day →
            ¬ Exit.Decayed strategy registry day.snapshot) ∧
        ∀ history requested study,
          ForwardStudy.run strategy history requested registry = .ok study →
          ∃ spans, study.trades = spans.map (ForwardStudy.tradeOf strategy) ∧
            ForwardStudy.IsSchedule strategy registry (ForwardStudy.studyDays history) 0 spans ∧
            ∀ span ∈ spans, ¬ Exit.Decayed strategy registry span.entered) := by
  refine ⟨?_, ?_, ?_⟩
  · intro snapshot enters
    obtain ⟨reason, called⟩ := Exit.signal_complete valid registry snapshot
    refine ⟨reason, called, ?_⟩
    rw [← Exit.decayed_of_entry_iff valid kind enters, Exit.Decayed, called, Except.ok.injEq]
  · intro negative snapshot scored
    have finite := Strategy.isFinite_entryThreshold valid kind
    exact ⟨(Strategy.entrySignal_iff kind).mpr ⟨_, scored, Double.le_self finite⟩,
      (Exit.decayed_iff kind scored).mpr (Double.lt_half_of_neg finite negative)⟩
  · intro nonneg
    constructor
    · intro period history series day opens
      exact Exit.not_decayed_of_entry valid kind nonneg opens.signalled
    · intro history requested study success
      obtain ⟨spans, made, schedule⟩ := ForwardStudy.schedule_of_run success
      refine ⟨spans, made, schedule, ?_⟩
      intro span member
      obtain ⟨_, _, enters, _⟩ := schedule.entered span member
      exact Exit.not_decayed_of_entry valid kind nonneg enters

/-- A score of 80 reaches the threshold of 70, and so it has not decayed. -/
theorem entry_never_decayed_graded :
    Sample.graded.validate = .ok () ∧ Sample.graded.signals = .scoring (Sample.scoring []) ∧
      Sample.graded.entrySignal Registry.builtin (Sample.scoredRow 80) = .ok true ∧
      ∃ reason, Exit.signal Sample.graded Registry.builtin (Sample.scoredRow 80) = .ok reason ∧
        reason ≠ some .signalDecay := by
  obtain ⟨days, _, _⟩ := entry_never_decayed Sample.graded (Sample.scoring [])
    Sample.graded_valid rfl Registry.builtin
  have enters : Sample.graded.entrySignal Registry.builtin (Sample.scoredRow 80) = .ok true :=
    eq_ok_of_toOption (by decide +kernel)
  have nonneg : ¬ (Sample.scoring []).entryThreshold < 0 := by decide +kernel
  obtain ⟨reason, called, decays⟩ := days _ enters
  exact ⟨Sample.graded_valid, rfl, enters, reason, called, fun decayed =>
    nonneg (decays.mp decayed).1⟩

/-- The rules of `graded` with a threshold below zero. -/
def Sample.lenient : Strategy Float :=
  Sample.graded.scoredBy ⟨[Sample.baseRule], [], -10, 0⟩

/-- A score of -8 reaches a threshold of -10 and lies below its half. -/
theorem entry_decayed_below_zero :
    Sample.lenient.validate = .ok () ∧
      Sample.lenient.entrySignal Registry.builtin (Sample.scoredRow (-8)) = .ok true ∧
      Exit.signal Sample.lenient Registry.builtin (Sample.scoredRow (-8)) =
        .ok (some .signalDecay) :=
  ⟨eq_ok_of_toBool (by decide +kernel), eq_ok_of_toOption (by decide +kernel),
    eq_ok_of_toOption (by decide +kernel)⟩

end DailySignals
