import Mathlib.Algebra.Order.Field.Rat
import Mathlib.Tactic.Ring
import Mathlib.Tactic.Linarith
import Mathlib.Tactic.FieldSimp
import DailySignals.Trading.Fill
import DailySignals.Proofs.Exact

/-!
# What trading costs

In exact arithmetic the profit of a round trip is a polynomial in its prices and
costs.  Slippage and fees multiply each other, so whether dearer trading lowers
the profit is a question of the exit price: costs of up to the whole price never
help, and beyond that there is an exit price above which they do.
-/

set_option autoImplicit false

namespace DailySignals

namespace Fill

variable {entry exit quantity slippage fees : Rat}

theorem paid_rat (price slippage : Rat) : paid price slippage = price * (1 + slippage) := by
  rw [paid, Arithmetic.numeral_rat, Nat.cast_one]

theorem received_rat (price slippage : Rat) :
    received price slippage = price * (1 - slippage) := by
  rw [received, Arithmetic.numeral_rat, Nat.cast_one]

/-- Where something was bought at a price, the profit is what is received less
what is paid, less the fees on both. -/
theorem profit_fst (priced : 0 < entry) (sized : 0 < quantity) :
    (profit entry exit quantity slippage fees).1 =
      quantity * ((exit * (1 - slippage) - entry * (1 + slippage)) -
        fees * (entry * (1 + slippage) + exit * (1 - slippage))) := by
  simp only [profit, Arithmetic.numeral_rat, Nat.cast_zero]
  rw [if_neg (not_or.mpr ⟨priced.not_ge, sized.not_ge⟩)]
  simp only [paid_rat, received_rat]
  ring

/-- The profit is the rate of it on the amount that was paid. -/
theorem profit_snd (priced : 0 < entry) (sized : 0 < quantity) (cost : 0 ≤ slippage) :
    (profit entry exit quantity slippage fees).2 * (entry * (1 + slippage) * quantity) =
      (profit entry exit quantity slippage fees).1 := by
  have invested : 0 < entry * (1 + slippage) * quantity :=
    mul_pos (mul_pos priced (by linarith)) sized
  simp only [profit, Arithmetic.numeral_rat, Nat.cast_zero]
  rw [if_neg (not_or.mpr ⟨priced.not_ge, sized.not_ge⟩)]
  simp only [paid_rat, received_rat, if_pos invested]
  exact div_mul_cancel₀ _ invested.ne'

end Fill

namespace RiskSettings

/-- The profit of a round trip under the costs of some settings. -/
def profit {α : Type} [Arithmetic α] (risk : RiskSettings α) (entry exit quantity : α) : α :=
  (Fill.profit entry exit quantity risk.slippage risk.fees).1

variable {risk : RiskSettings Rat} {entry exit quantity dearer : Rat}

/-- What the costs of a round trip take from its gross profit. -/
theorem gross_sub_profit (priced : 0 < entry) (sized : 0 < quantity) :
    (exit - entry) * quantity - risk.profit entry exit quantity =
      quantity * ((risk.fees + risk.slippage) * (exit + entry) -
        risk.fees * risk.slippage * (exit - entry)) := by
  rw [profit, Fill.profit_fst priced sized]
  ring

theorem profit_sub_of_slippage (priced : 0 < entry) (sized : 0 < quantity) (dearer : Rat) :
    risk.profit entry exit quantity -
        { risk with slippage := dearer }.profit entry exit quantity =
      (quantity * (dearer - risk.slippage)) *
        ((risk.fees + 1) * entry - (risk.fees - 1) * exit) := by
  simp only [profit, Fill.profit_fst priced sized]
  ring

theorem profit_sub_of_fees (priced : 0 < entry) (sized : 0 < quantity) (dearer : Rat) :
    risk.profit entry exit quantity - { risk with fees := dearer }.profit entry exit quantity =
      (quantity * (dearer - risk.fees)) *
        ((risk.slippage + 1) * entry - (risk.slippage - 1) * exit) := by
  simp only [profit, Fill.profit_fst priced sized]
  ring

/-- A profit is no more than another if the difference is, and the difference is
a product with a positive factor. -/
theorem le_iff_of_sub_eq {less more factor taken given : Rat} (positive : 0 < factor)
    (difference : more - less = factor * (given - taken)) : less ≤ more ↔ taken ≤ given := by
  rw [← sub_nonneg, difference, mul_nonneg_iff_of_pos_left positive, sub_nonneg]

theorem profit_le_gross_iff (priced : 0 < entry) (sized : 0 < quantity) :
    risk.profit entry exit quantity ≤ (exit - entry) * quantity ↔
      risk.fees * risk.slippage * (exit - entry) ≤
        (risk.fees + risk.slippage) * (exit + entry) :=
  le_iff_of_sub_eq sized (gross_sub_profit priced sized)

theorem profit_antitone_slippage_iff (priced : 0 < entry) (sized : 0 < quantity)
    (raised : risk.slippage < dearer) :
    { risk with slippage := dearer }.profit entry exit quantity ≤
        risk.profit entry exit quantity ↔
      (risk.fees - 1) * exit ≤ (risk.fees + 1) * entry :=
  le_iff_of_sub_eq (mul_pos sized (sub_pos.mpr raised))
    (profit_sub_of_slippage priced sized dearer)

theorem profit_antitone_fees_iff (priced : 0 < entry) (sized : 0 < quantity)
    (raised : risk.fees < dearer) :
    { risk with fees := dearer }.profit entry exit quantity ≤ risk.profit entry exit quantity ↔
      (risk.slippage - 1) * exit ≤ (risk.slippage + 1) * entry :=
  le_iff_of_sub_eq (mul_pos sized (sub_pos.mpr raised)) (profit_sub_of_fees priced sized dearer)

/-- Of two costs one of which is at most the whole price, what they take together
outweighs what they take from each other. -/
theorem cross_le {first second : Rat} (firstCost : 0 ≤ first) (secondCost : 0 ≤ second)
    (bounded : first ≤ 1) (priced : 0 < entry) (sold : 0 ≤ exit) :
    first * second * (exit - entry) ≤ (first + second) * (exit + entry) := by
  have dealt : 0 ≤ exit + entry := by linarith
  calc first * second * (exit - entry)
      ≤ first * second * (exit + entry) :=
        mul_le_mul_of_nonneg_left (by linarith) (mul_nonneg firstCost secondCost)
    _ ≤ 1 * second * (exit + entry) :=
        mul_le_mul_of_nonneg_right (mul_le_mul_of_nonneg_right bounded secondCost) dealt
    _ ≤ (first + second) * (exit + entry) :=
        mul_le_mul_of_nonneg_right (by linarith) dealt

theorem exit_le_of_bounded {cost : Rat} (nonneg : 0 ≤ cost) (bounded : cost ≤ 1)
    (priced : 0 < entry) (sold : 0 ≤ exit) : (cost - 1) * exit ≤ (cost + 1) * entry :=
  (mul_nonpos_of_nonpos_of_nonneg (sub_nonpos.mpr bounded) sold).trans
    (mul_nonneg (by linarith) priced.le)

theorem validate_of_costs (valid : risk.validate = .ok ()) {fees slippage : Rat}
    (feesCost : 0 ≤ fees) (slippageCost : 0 ≤ slippage) :
    { risk with fees := fees, slippage := slippage }.validate = .ok () := by
  obtain ⟨admissible, fraction⟩ := validate_eq_ok.mp valid
  exact validate_eq_ok.mpr
    ⟨{ admissible with
        fees := isCost_rat.mpr feesCost
        slippage := isCost_rat.mpr slippageCost }, fraction⟩

/-- Under settings that validate, costs keep the profit at or below the gross
profit, and dearer trading keeps it at or below what it was, exactly up to an
exit price that the other cost decides.  For costs of at most the whole price
there is no such limit: they never help. -/
theorem profit_antitone_in_costs (risk : RiskSettings Rat) (entry exit quantity : Rat)
    (valid : risk.validate = .ok ()) (priced : 0 < entry) (sized : 0 < quantity)
    (sold : 0 ≤ exit) :
    (risk.profit entry exit quantity ≤ (exit - entry) * quantity ↔
        risk.fees * risk.slippage * (exit - entry) ≤
          (risk.fees + risk.slippage) * (exit + entry)) ∧
      (∀ dearer, risk.slippage < dearer →
        { risk with slippage := dearer }.validate = .ok () ∧
          ({ risk with slippage := dearer }.profit entry exit quantity ≤
              risk.profit entry exit quantity ↔
            (risk.fees - 1) * exit ≤ (risk.fees + 1) * entry)) ∧
      (∀ dearer, risk.fees < dearer →
        { risk with fees := dearer }.validate = .ok () ∧
          ({ risk with fees := dearer }.profit entry exit quantity ≤
              risk.profit entry exit quantity ↔
            (risk.slippage - 1) * exit ≤ (risk.slippage + 1) * entry)) ∧
      (risk.fees ≤ 1 ∨ risk.slippage ≤ 1 →
        risk.profit entry exit quantity ≤ (exit - entry) * quantity) ∧
      (risk.fees ≤ 1 → ∀ dearer, risk.slippage < dearer →
        { risk with slippage := dearer }.profit entry exit quantity ≤
          risk.profit entry exit quantity) ∧
      (risk.slippage ≤ 1 → ∀ dearer, risk.fees < dearer →
        { risk with fees := dearer }.profit entry exit quantity ≤
          risk.profit entry exit quantity) := by
  have feesCost := fees_nonneg valid
  have slippageCost := slippage_nonneg valid
  refine ⟨profit_le_gross_iff priced sized, ?_, ?_, ?_, ?_, ?_⟩
  -- validation bounds costs from below only, so dearer settings stay valid
  · intro dearer raised
    exact ⟨validate_of_costs valid feesCost (slippageCost.trans raised.le),
      profit_antitone_slippage_iff priced sized raised⟩
  · intro dearer raised
    exact ⟨validate_of_costs valid (feesCost.trans raised.le) slippageCost,
      profit_antitone_fees_iff priced sized raised⟩
  · intro bounded
    rw [profit_le_gross_iff priced sized]
    -- the two costs enter alike, and a bound on either is enough
    rcases bounded with lowFees | lowSlippage
    · exact cross_le feesCost slippageCost lowFees priced sold
    · rw [mul_comm risk.fees, add_comm risk.fees]
      exact cross_le slippageCost feesCost lowSlippage priced sold
  · intro lowFees dearer raised
    exact (profit_antitone_slippage_iff priced sized raised).mpr
      (exit_le_of_bounded feesCost lowFees priced sold)
  · intro lowSlippage dearer raised
    exact (profit_antitone_fees_iff priced sized raised).mpr
      (exit_le_of_bounded slippageCost lowSlippage priced sold)

end RiskSettings

namespace Sample

/-- Settings under which both costs are three times the price. -/
def ruinous : RiskSettings Rat :=
  { RiskSettings.frictionless with fees := 3, slippage := 3 }

end Sample

namespace RiskSettings

/-- With the default costs of a tenth of a per cent a gain of ten per cent is
less than without, and less again at ten times the slippage or the fees. -/
theorem profit_antitone_in_costs_default :
    (default : RiskSettings Rat).validate = .ok () ∧ (0 : Rat) < 100 ∧ (0 : Rat) < 10 ∧
      (0 : Rat) ≤ 110 ∧ (default : RiskSettings Rat).fees ≤ 1 ∧
      (default : RiskSettings Rat).slippage ≤ 1 ∧
      (default : RiskSettings Rat).profit 100 110 10 ≤ (110 - 100) * 10 ∧
      { (default : RiskSettings Rat) with slippage := 1 / 100 }.profit 100 110 10 ≤
        (default : RiskSettings Rat).profit 100 110 10 ∧
      { (default : RiskSettings Rat) with fees := 1 / 100 }.profit 100 110 10 ≤
        (default : RiskSettings Rat).profit 100 110 10 := by
  have valid : (default : RiskSettings Rat).validate = .ok () := eq_ok_of_toBool (by decide +kernel)
  have lowFees : (default : RiskSettings Rat).fees ≤ 1 := by decide +kernel
  have lowSlippage : (default : RiskSettings Rat).slippage ≤ 1 := by decide +kernel
  obtain ⟨_, _, _, gross, slippage, fees⟩ := profit_antitone_in_costs default 100 110 10 valid
    (by decide) (by decide) (by decide)
  exact ⟨valid, by decide, by decide, by decide, lowFees, lowSlippage, gross (.inl lowFees),
    slippage lowFees (1 / 100) (by decide +kernel), fees lowSlippage (1 / 100) (by decide +kernel)⟩

/-- Costs of three times the price are valid, and under both of them a sale at
ten times the price of the purchase gains more than without costs, more than
without the slippage alone and more than without the fees alone. -/
theorem costs_above_price_help :
    Sample.ruinous.validate = .ok () ∧
      { Sample.ruinous with slippage := 0 }.validate = .ok () ∧
      { Sample.ruinous with fees := 0 }.validate = .ok () ∧
      ¬ Sample.ruinous.profit 1 10 1 ≤ (10 - 1) * 1 ∧
      ¬ Sample.ruinous.profit 1 10 1 ≤ { Sample.ruinous with slippage := 0 }.profit 1 10 1 ∧
      ¬ Sample.ruinous.profit 1 10 1 ≤ { Sample.ruinous with fees := 0 }.profit 1 10 1 :=
  ⟨eq_ok_of_toBool (by decide +kernel), eq_ok_of_toBool (by decide +kernel),
    eq_ok_of_toBool (by decide +kernel), by decide +kernel, by decide +kernel,
    by decide +kernel⟩

end RiskSettings

end DailySignals
