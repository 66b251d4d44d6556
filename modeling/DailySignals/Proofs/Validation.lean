import DailySignals.Outcome
import DailySignals.Trading.Period
import DailySignals.Trading.Strategy

/-!
# What validation accepts

Validation reports the first defect it finds.  What it accepts does not depend
on the order in which it looks: each check passes.
-/

set_option autoImplicit false

namespace DailySignals

variable {α : Type} [Arithmetic α]

theorem Period.validate_eq_ok {period : Period α} :
    period.validate = .ok () ↔
      ¬ period.finish < period.start ∧ RiskSettings.isSize period.equity = true := by
  unfold validate
  rw [guard_eq_ok, refusal_eq_ok, Bool.not_eq_true', Bool.not_eq_false]

namespace RiskSettings

/-- Settings of which each is usable for itself. -/
structure Admissible (risk : RiskSettings α) : Prop where
  orderSize : isSize risk.orderSize = true
  fees : isCost risk.fees = true
  slippage : isCost risk.slippage = true
  stopLoss : risk.stopLoss.all isSize = true
  takeProfit : risk.takeProfit.all isSize = true
  maxDailyLoss : risk.maxDailyLoss.all isSize = true
  maxPositions : 1 ≤ risk.maxPositions

theorem validateLimit_eq_ok {name : String} {limit : Option α} :
    validateLimit name limit = .ok () ↔ limit.all isSize = true :=
  admission_eq_ok

/-- Beside the settings for themselves, validation looks at the sizing and the
size of an order together. -/
theorem validate_eq_ok {risk : RiskSettings α} :
    risk.validate = .ok () ↔
      risk.Admissible ∧ ¬ (risk.sizing = .percentOfEquity ∧ 1 < risk.orderSize) := by
  unfold validate
  rw [guard_eq_ok, guard_eq_ok, guard_eq_ok, guard_eq_ok, check_bind_eq_ok, check_bind_eq_ok,
    check_bind_eq_ok, validateLimit_eq_ok, validateLimit_eq_ok, validateLimit_eq_ok,
    refusal_eq_ok]
  simp only [Bool.not_eq_true', Bool.not_eq_false, Nat.not_lt]
  constructor
  · rintro ⟨orderSize, fraction, fees, slippage, stopLoss, takeProfit, maxDailyLoss, maxPositions⟩
    exact ⟨⟨orderSize, fees, slippage, stopLoss, takeProfit, maxDailyLoss, maxPositions⟩, fraction⟩
  · rintro ⟨admissible, fraction⟩
    exact ⟨admissible.orderSize, fraction, admissible.fees, admissible.slippage,
      admissible.stopLoss, admissible.takeProfit, admissible.maxDailyLoss,
      admissible.maxPositions⟩

end RiskSettings

namespace Strategy

theorem validateSignals_scoring_eq_ok {rules : ScoringSignals α} :
    validateSignals (.scoring rules) = .ok () ↔
      rules.entryRules.isEmpty = false ∧
        (Arithmetic.isFinite rules.entryThreshold = true ∧
          Arithmetic.isFinite rules.exitThreshold = true) ∧
        ∀ rule ∈ rules.entryRules ++ rules.exitRules, validateRule rule = .ok () := by
  unfold validateSignals
  rw [guard_eq_ok, guard_eq_ok, forM_eq_ok]
  simp only [Bool.not_eq_true, Bool.or_eq_true, Bool.not_eq_true', not_or, Bool.not_eq_false]

theorem validate_eq_ok {strategy : Strategy α} :
    strategy.validate = .ok () ↔
      Text.isAllBlank strategy.name = false ∧ Text.isAllBlank strategy.symbol = false ∧
        validateSignals strategy.signals = .ok () ∧ strategy.risk.validate = .ok () := by
  unfold validate
  rw [guard_eq_ok, guard_eq_ok, check_bind_eq_ok, mapError_eq_ok]
  simp only [Bool.not_eq_true]

theorem risk_valid {strategy : Strategy α} (valid : strategy.validate = .ok ()) :
    strategy.risk.validate = .ok () :=
  (validate_eq_ok.mp valid).2.2.2

end Strategy

end DailySignals
