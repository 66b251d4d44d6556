import DailySignals.Proofs.Scorable
import DailySignals.Trading.Exit

/-!
# The exit that a day calls for

Each of the four exits has a test of its own, stated without the others
(`called`).  A day calls for the first of them whose test succeeds
(`precedence`), and for a strategy that can be scored it always comes to a
decision.
-/

set_option autoImplicit false

namespace DailySignals

variable {α : Type} [Arithmetic α]

namespace Exit

/-- The exits a day can call for; the first that is called for decides. -/
def precedence : List ExitReason :=
  [.stopLoss, .takeProfit, .signalDecay, .sellCondition]

/-- How far a price has moved from the entry, as a fraction of it. -/
def change (position : Position α) (mark : α) : α :=
  (mark - position.entryPrice) / position.entryPrice

/-- Whether a day calls for an exit of one kind, whatever else it calls for. -/
def called (strategy : Strategy α) (registry : Registry α) (snapshot : Snapshot α)
    (position : Position α) (mark : α) : ExitReason → Bool
  | .stopLoss =>
      !decide (position.entryPrice ≤ 0) &&
        strategy.hardStops.1.any fun loss => decide (change position mark ≤ -Arithmetic.abs loss)
  | .takeProfit =>
      !decide (position.entryPrice ≤ 0) &&
        strategy.hardStops.2.any fun gain => decide (gain ≤ change position mark)
  | .signalDecay =>
      match strategy.signals with
      | .conditions _ _ => false
      | .scoring rules =>
          (registry.score rules.entryRules snapshot).toOption.any fun score =>
            decide (score < rules.entryThreshold * decayFraction)
  | .sellCondition =>
      match strategy.signals with
      | .conditions _ sell => sell.holds .nothing snapshot
      | .scoring rules =>
          !rules.exitRules.isEmpty &&
            (registry.score rules.exitRules snapshot).toOption.any fun score =>
              decide (score < rules.exitThreshold)
  | .endOfData => false

variable {strategy : Strategy α} {position : Position α}

theorem hardStop_eq_find? (registry : Registry α) (snapshot : Snapshot α) (mark : α) :
    hardStop position.entryPrice mark strategy.hardStops.1 strategy.hardStops.2 =
      [ExitReason.stopLoss, .takeProfit].find?
        (called strategy registry snapshot position mark) := by
  have moved : (mark - position.entryPrice) / position.entryPrice = change position mark := rfl
  unfold hardStop
  by_cases worthless : position.entryPrice ≤ 0
  · simp only [worthless, if_true, List.find?_cons, List.find?_nil, called, decide_true,
      Bool.not_true, Bool.false_and]
  · simp only [worthless, moved, if_false, List.find?_cons, List.find?_nil, called,
      decide_false, Bool.not_false, Bool.true_and]
    cases strategy.hardStops.1.any fun loss =>
        decide (change position mark ≤ -Arithmetic.abs loss) with
    | true => rfl
    | false =>
        cases strategy.hardStops.2.any fun gain => decide (gain ≤ change position mark) with
        | true => rfl
        | false => rfl

theorem signal_eq_find? (scorable : strategy.Scorable) (registry : Registry α)
    (snapshot : Snapshot α) (mark : α) :
    signal strategy registry snapshot =
      .ok ([ExitReason.signalDecay, .sellCondition].find?
        (called strategy registry snapshot position mark)) := by
  unfold signal
  cases kind : strategy.signals with
  | conditions buy sell =>
      simp only [List.find?_cons, List.find?_nil, called, kind]
      cases sell.holds .nothing snapshot <;> rfl
  | scoring rules =>
      obtain ⟨entry, _, entryScored⟩ := scorable.entryScore kind registry snapshot
      obtain ⟨exitScore, exitScored⟩ := scorable.exitScore kind registry snapshot
      simp only [List.find?_cons, List.find?_nil, called, kind, entryScored, exitScored,
        Except.toOption, Option.any_some, Registry.triggersExit, bind, Except.bind, pure,
        Except.pure]
      by_cases decayed : entry.total < rules.entryThreshold * decayFraction
      · simp only [decayed, if_true, decide_true]
      · simp only [decayed, if_false, decide_false]
        by_cases unruled : rules.exitRules.isEmpty = true
        · simp only [unruled, if_true, Bool.not_true, Bool.false_and, Bool.false_eq_true,
            if_false]
        · rw [Bool.not_eq_true] at unruled
          simp only [unruled, Bool.false_eq_true, if_false, Bool.not_false, Bool.true_and,
            Except.map]
          by_cases low : exitScore < rules.exitThreshold
          · simp only [low, decide_true, if_true]
          · simp only [low, decide_false, Bool.false_eq_true, if_false]

/-- The exit that a day calls for is the first of the four that is called for. -/
theorem decision_eq_find? (scorable : strategy.Scorable) (registry : Registry α)
    (snapshot : Snapshot α) (mark : α) :
    decision strategy registry snapshot position mark =
      .ok (precedence.find? (called strategy registry snapshot position mark)) := by
  have parts : precedence = [.stopLoss, .takeProfit] ++ [.signalDecay, .sellCondition] := rfl
  rw [parts, List.find?_append, ← hardStop_eq_find?]
  unfold decision
  simp only
  cases hardStop position.entryPrice mark strategy.hardStops.1 strategy.hardStops.2 with
  | some reason => rfl
  | none =>
      rw [Option.none_or]
      exact signal_eq_find? scorable registry snapshot mark

end Exit

end DailySignals
