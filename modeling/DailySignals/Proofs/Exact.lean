import Mathlib.Algebra.Order.Field.Rat
import Mathlib.Tactic.Ring
import Mathlib.Tactic.Linarith
import DailySignals.Proofs.Validation

/-!
# Exact arithmetic

Over the rationals a written number is its own value, and the tests of the
settings for a usable size are tests of its sign.
-/

set_option autoImplicit false

namespace DailySignals

namespace Arithmetic

theorem ofNat_rat (n : Nat) : (ofNat n : Rat) = (n : Rat) := by
  simp [ofNat, ofDecimal, Decimal.toRat, Decimal.ofNat, Rat.ofScientific]

/-- A numeral of the arithmetic, read over the rationals. -/
theorem numeral_rat (n : Nat) : @OfNat.ofNat Rat n (instOfNat n) = (n : Rat) :=
  ofNat_rat n

theorem total_rat (xs : List Rat) : total xs = xs.sum := by
  rw [total, numeral_rat, Nat.cast_zero, List.sum_eq_foldl]

theorem sum_rat (xs : List Rat) : sum xs = xs.sum := by
  rw [sum, numeral_rat, Nat.cast_zero, neg_zero, List.sum_eq_foldl]

theorem isPositive_rat {x : Rat} : isPositive x = true ↔ 0 < x := by
  rw [isPositive, decide_eq_true_eq, numeral_rat, Nat.cast_zero]

end Arithmetic

namespace RiskSettings

theorem isSize_rat {value : Rat} : isSize value = true ↔ 0 < value := by
  rw [isSize, Bool.and_eq_true, Arithmetic.isPositive_rat]
  exact and_iff_left rfl

theorem isCost_rat {value : Rat} : isCost value = true ↔ 0 ≤ value := by
  rw [isCost, Bool.and_eq_true, Bool.not_eq_true', decide_eq_false_iff_not,
    Arithmetic.numeral_rat, Nat.cast_zero, not_lt]
  exact and_iff_left rfl

variable {risk : RiskSettings Rat}

theorem fees_nonneg (valid : risk.validate = .ok ()) : 0 ≤ risk.fees :=
  isCost_rat.mp (validate_eq_ok.mp valid).1.fees

theorem slippage_nonneg (valid : risk.validate = .ok ()) : 0 ≤ risk.slippage :=
  isCost_rat.mp (validate_eq_ok.mp valid).1.slippage

theorem orderSize_pos (valid : risk.validate = .ok ()) : 0 < risk.orderSize :=
  isSize_rat.mp (validate_eq_ok.mp valid).1.orderSize

/-- An order that is sized by the equity takes no more than all of it. -/
theorem orderSize_le_one (valid : risk.validate = .ok ())
    (percent : risk.sizing = .percentOfEquity) : risk.orderSize ≤ 1 := by
  have fraction := (validate_eq_ok.mp valid).2
  rw [Arithmetic.numeral_rat, Nat.cast_one] at fraction
  exact not_lt.mp fun above => fraction ⟨percent, above⟩

end RiskSettings

theorem Period.equity_pos {period : Period Rat} (valid : period.validate = .ok ()) :
    0 < period.equity :=
  RiskSettings.isSize_rat.mp (validate_eq_ok.mp valid).2

end DailySignals
