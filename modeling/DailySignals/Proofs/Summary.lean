import Mathlib.Algebra.Order.BigOperators.Group.List
import Mathlib.Algebra.Order.Field.Rat
import Mathlib.Order.Bounds.Basic
import Mathlib.Tactic.Linarith
import DailySignals.Proofs.Backtest.Accounting
import DailySignals.Proofs.Drawdown

/-!
# The summary of a run adds up

What the statistics say of gains and losses can be put together again: counts
times means give the profit of all trades, and the factor of gains over losses
is the quotient of these parts.  Trades that broke even belong to neither part.
None of it depends on the order of the trades, and where no position is open it
is what the equity curve has gained.
-/

set_option autoImplicit false

namespace DailySignals

/-- The trades that gained. -/
def winners (trades : List (Trade Rat)) : List (Trade Rat) :=
  trades.filter fun trade => decide (0 < trade.profit)

/-- The trades that lost. -/
def losers (trades : List (Trade Rat)) : List (Trade Rat) :=
  trades.filter fun trade => decide (trade.profit < 0)

variable {trades : List (Trade Rat)}

theorem filter_isWin : trades.filter (·.isWin) = winners trades := by
  apply List.filter_congr
  intro trade _
  rw [Trade.isWin, Bool.eq_iff_iff, Arithmetic.isPositive_rat, decide_eq_true_eq]

theorem filter_isLoss : trades.filter (·.isLoss) = losers trades := by
  apply List.filter_congr
  intro trade _
  rw [Trade.isLoss, Arithmetic.numeral_rat, Nat.cast_zero]

/-! ## Profits of a part -/

theorem totalProfit_cons (trade : Trade Rat) (rest : List (Trade Rat)) :
    totalProfit (trade :: rest) = trade.profit + totalProfit rest := by
  simp [totalProfit]

/-- Trades that broke even add nothing. -/
theorem totalProfit_winners_add_losers (trades : List (Trade Rat)) :
    totalProfit (winners trades) + totalProfit (losers trades) = totalProfit trades := by
  induction trades with
  | nil => simp [winners, losers, totalProfit]
  | cons trade rest ih =>
      rw [totalProfit_cons, ← ih, winners, losers, List.filter_cons, List.filter_cons]
      rcases lt_trichotomy trade.profit 0 with lost | even | won
      · simp only [lost, lost.not_gt, decide_true, decide_false, if_true, Bool.false_eq_true,
          if_false, totalProfit_cons]
        exact add_left_comm _ _ _
      · simp only [even, lt_irrefl, decide_false, Bool.false_eq_true, if_false, zero_add]
        rfl
      · simp only [won, won.not_gt, decide_true, decide_false, if_true, Bool.false_eq_true,
          if_false, totalProfit_cons]
        exact add_assoc _ _ _

theorem totalProfit_winners_nonneg : 0 ≤ totalProfit (winners trades) := by
  apply List.sum_nonneg
  rw [List.forall_mem_map]
  intro trade won
  exact (of_decide_eq_true (List.mem_filter.mp won).2).le

theorem totalProfit_neg (lost : ∀ trade ∈ trades, trade.profit < 0) (some_trades : trades ≠ []) :
    totalProfit trades < 0 := by
  induction trades with
  | nil => exact absurd rfl some_trades
  | cons trade rest ih =>
      rw [totalProfit_cons]
      have first := lost trade (by simp)
      cases rest with
      | nil => simpa [totalProfit] using first
      | cons next others =>
          have later := ih (fun other member => lost other (List.mem_cons_of_mem _ member))
            (List.cons_ne_nil _ _)
          linarith

theorem totalProfit_losers_neg (some_lost : losers trades ≠ []) :
    totalProfit (losers trades) < 0 :=
  totalProfit_neg (fun _ lost => of_decide_eq_true (List.mem_filter.mp lost).2) some_lost

/-! ## The statistics -/

namespace Statistics

/-- Statistics that account for all that some trades have gained and lost. -/
structure Reconciles (trades : List (Trade Rat)) (statistics : Statistics Rat) : Prop where
  tradeCount_eq : statistics.tradeCount = trades.length
  profit_eq : (winners trades).length * statistics.averageGain +
    (losers trades).length * statistics.averageLoss = totalProfit trades
  winRate_mul : statistics.winRate * statistics.tradeCount = (winners trades).length
  profitFactor_isSome : statistics.profitFactor.isSome = true ↔ losers trades ≠ []
  profitFactor_mul : ∀ factor, statistics.profitFactor = some factor →
    factor * (losers trades).length * -statistics.averageLoss =
      (winners trades).length * statistics.averageGain
  largestWin : IsGreatest (insert 0 {profit | profit ∈ trades.map (·.profit)})
    statistics.largestWin
  largestLoss : IsLeast (insert 0 {profit | profit ∈ trades.map (·.profit)})
    statistics.largestLoss
  averageLoss_nonpos : statistics.averageLoss ≤ 0
  averageGain_nonneg : 0 ≤ statistics.averageGain

variable {trades' : List (Trade Rat)} {curve : List (EquityPoint Rat)} {initial : Rat}

/-- A mean, taken as often as there are trades, is the profit of all. -/
theorem length_mul_mean (trades : List (Trade Rat)) :
    (trades.length : Rat) * (totalProfit trades / trades.length) = totalProfit trades := by
  cases trades with
  | nil => simp [totalProfit]
  | cons trade rest =>
      apply mul_div_cancel₀
      rw [Nat.cast_ne_zero, List.length_cons]
      omega

/-- Values that are not above the first of all need not be compared. -/
theorem isGreatest_foldl_max_above {β : Type} [LinearOrder β] (best : β) (values : List β) :
    IsGreatest (insert best {value | value ∈ values})
      ((values.filter fun value => decide (best < value)).foldl max best) := by
  obtain ⟨attained, above⟩ :=
    isGreatest_foldl_max best (values.filter fun value => decide (best < value))
  constructor
  · exact Set.insert_subset_insert (fun value member => (List.mem_filter.mp member).1) attained
  · rintro value (rfl | member)
    · exact above (Set.mem_insert _ _)
    · by_cases higher : best < value
      · exact above (.inr (List.mem_filter.mpr ⟨member, decide_eq_true higher⟩))
      · exact (not_lt.mp higher).trans (above (Set.mem_insert _ _))

theorem isLeast_foldl_min_below (best : Rat) (values : List Rat) :
    IsLeast (insert best {value | value ∈ values})
      ((values.filter fun value => decide (value < best)).foldl min best) :=
  isGreatest_foldl_max_above (β := Ratᵒᵈ) best values

theorem smaller_rat : (smaller : Rat → Rat → Rat) = min := by
  funext best value
  rw [smaller, min_comm, min_def_lt]

theorem mean_rat (total : Rat) (count : Nat) : mean total count = total / count := by
  rw [mean]
  by_cases counted : 0 < count
  · rw [if_pos counted, Arithmetic.ofNat_rat]
  · have none_counted : count = 0 := by omega
    rw [if_neg counted, Arithmetic.numeral_rat, none_counted, Nat.cast_zero, div_zero]

theorem averageGain_rat : (compute trades curve initial).averageGain =
    totalProfit (winners trades) / (winners trades).length := by
  simp only [compute, mean_rat, filter_isWin, Arithmetic.total_rat, List.length_map, totalProfit]

theorem averageLoss_rat : (compute trades curve initial).averageLoss =
    totalProfit (losers trades) / (losers trades).length := by
  simp only [compute, mean_rat, filter_isLoss, Arithmetic.total_rat, List.length_map, totalProfit]

theorem winRate_rat : (compute trades curve initial).winRate =
    (winners trades).length / trades.length := by
  simp only [compute, mean_rat, filter_isWin, Arithmetic.ofNat_rat, List.length_map]

/-- The factor is there exactly if something was lost. -/
theorem profitFactor_rat : (compute trades curve initial).profitFactor =
    if losers trades = [] then none
    else some (totalProfit (winners trades) / -totalProfit (losers trades)) := by
  simp only [compute, filter_isWin, filter_isLoss, Arithmetic.total_rat, List.length_map,
    Arithmetic.numeral_rat, Nat.cast_zero, Arithmetic.abs]
  change (if 0 < (losers trades).length ∧ totalProfit (losers trades) < 0 then
    some (totalProfit (winners trades) / if totalProfit (losers trades) < 0 then
      -totalProfit (losers trades) else totalProfit (losers trades)) else none) = _
  by_cases none_lost : losers trades = []
  · simp [none_lost]
  · have lost : totalProfit (losers trades) < 0 := totalProfit_losers_neg none_lost
    rw [if_neg none_lost, if_pos ⟨List.length_pos_iff.mpr none_lost, lost⟩, if_pos lost]

theorem largestWin_rat : (compute trades curve initial).largestWin =
    ((trades.map (·.profit)).filter fun profit => decide (0 < profit)).foldl max 0 := by
  simp only [compute, filter_isWin, larger_rat, Arithmetic.numeral_rat, Nat.cast_zero, winners,
    List.filter_map, Function.comp_def]

theorem largestLoss_rat : (compute trades curve initial).largestLoss =
    ((trades.map (·.profit)).filter fun profit => decide (profit < 0)).foldl min 0 := by
  simp only [compute, filter_isLoss, smaller_rat, Arithmetic.numeral_rat, Nat.cast_zero, losers,
    List.filter_map, Function.comp_def]

/-- The statistics do not depend on the order of the trades. -/
theorem compute_congr_of_perm (same : trades'.Perm trades) :
    compute trades' curve initial = compute trades curve initial := by
  have won : ((trades'.filter (·.isWin)).map (·.profit)).Perm
      ((trades.filter (·.isWin)).map (·.profit)) := (same.filter _).map _
  have lost : ((trades'.filter (·.isLoss)).map (·.profit)).Perm
      ((trades.filter (·.isLoss)).map (·.profit)) := (same.filter _).map _
  have days : totalHoldDays trades' = totalHoldDays trades :=
    same.foldl_eq' (fun first _ second _ days => by omega) 0
  have largest := won.foldl_eq' (fun first _ second _ best => max_right_comm best first second) 0
  have least := lost.foldl_eq' (fun first _ second _ best => min_right_comm best first second) 0
  simp only [compute, Arithmetic.total_rat, larger_rat, smaller_rat, Arithmetic.numeral_rat,
    Nat.cast_zero, won.sum_eq, lost.sum_eq, won.length_eq, lost.length_eq, same.length_eq, days,
    largest, least]

theorem compute_reconciles (trades : List (Trade Rat)) (curve : List (EquityPoint Rat))
    (initial : Rat) : (compute trades curve initial).Reconciles trades where
  tradeCount_eq := rfl
  profit_eq := by
    rw [averageGain_rat, averageLoss_rat, length_mul_mean, length_mul_mean,
      totalProfit_winners_add_losers]
  winRate_mul := by
    change (compute trades curve initial).winRate * trades.length = _
    rw [winRate_rat]
    cases trades with
    | nil => simp [winners]
    | cons trade rest =>
        apply div_mul_cancel₀
        rw [Nat.cast_ne_zero, List.length_cons]
        omega
  profitFactor_isSome := by
    rw [profitFactor_rat]
    split
    · rename_i none_lost
      simp [none_lost]
    · rename_i some_lost
      simp [some_lost]
  profitFactor_mul := by
    intro factor found
    rw [profitFactor_rat] at found
    split at found
    · cases found
    · rename_i some_lost
      cases found
      have lost : totalProfit (losers trades) < 0 := totalProfit_losers_neg some_lost
      rw [averageGain_rat, averageLoss_rat, length_mul_mean, mul_assoc, mul_neg,
        length_mul_mean]
      exact div_mul_cancel₀ _ (neg_ne_zero.mpr lost.ne)
  largestWin := by
    rw [largestWin_rat]
    exact isGreatest_foldl_max_above 0 _
  largestLoss := by
    rw [largestLoss_rat]
    exact isLeast_foldl_min_below 0 _
  averageLoss_nonpos := by
    rw [averageLoss_rat]
    apply div_nonpos_of_nonpos_of_nonneg ?_ (Nat.cast_nonneg _)
    by_cases none_lost : losers trades = []
    · simp [none_lost, totalProfit]
    · exact (totalProfit_losers_neg none_lost).le
  averageGain_nonneg := by
    rw [averageGain_rat]
    exact div_nonneg totalProfit_winners_nonneg (Nat.cast_nonneg _)

/-- The statistics of some trades account for what these have gained and lost, in
whatever order they come.  Where a run ends without a position, what its curve has
gained is what its trades have. -/
theorem statistics_reconcile :
    (∀ (trades : List (Trade Rat)) (curve : List (EquityPoint Rat)) (initial : Rat),
      (compute trades curve initial).Reconciles trades ∧
        ∀ trades', trades'.Perm trades →
          compute trades' curve initial = compute trades curve initial) ∧
      ∀ (strategy : Strategy Rat) (period : Period Rat) (history : List (Snapshot Rat))
        (series : PriceSeries Rat) (registry : Registry Rat) (result : Backtest Rat),
        Backtest.run strategy period history series registry = .ok result →
        result.openPosition = none →
        period.equity * result.statistics.totalReturn =
          (winners result.trades).length * result.statistics.averageGain +
            (losers result.trades).length * result.statistics.averageLoss := by
  refine ⟨fun trades curve initial => ⟨compute_reconciles trades curve initial,
    fun trades' same => compute_congr_of_perm same⟩, ?_⟩
  intro strategy period history series registry result success free
  obtain ⟨_, periodValid, final, simulated, rfl⟩ := Backtest.run_eq_ok.mp success
  have gained : Statistics.totalReturnOf final.curve period.equity * period.equity =
      totalProfit final.trades := by
    rw [Backtest.totalReturnOf_mul (Period.equity_pos periodValid),
      Backtest.simulate_equity simulated, Backtest.simulate_flat simulated free]
    exact add_sub_cancel_left _ _
  calc period.equity * totalReturnOf final.curve period.equity
      = totalProfit final.trades := by rw [mul_comm, gained]
    _ = _ := (compute_reconciles final.trades final.curve period.equity).profit_eq.symm

end Statistics

namespace Sample

/-- The sample prices with a fall on the last day. -/
def turnedSeries : PriceSeries Rat :=
  .ofBars [bar firstDay 100, bar secondDay 110, bar thirdDay 88]

def turnedDays : List (TradingDay Rat) :=
  [⟨snapshot firstDay 1, bar firstDay 100⟩, ⟨snapshot secondDay 3, bar secondDay 110⟩,
    ⟨snapshot thirdDay 4, bar thirdDay 88⟩]

theorem tradingDays_turned :
    Backtest.tradingDays period history turnedSeries = turnedDays := by
  have bars : turnedSeries.bars = [bar firstDay 100, bar secondDay 110, bar thirdDay 88] :=
    mergeSort_eq_of_perm PriceBar.date (.refl _) (by decide)
  unfold Backtest.tradingDays PriceSeries.get?
  rw [history_inDateOrder, bars]
  rfl

end Sample

namespace Statistics

/-- The sample gains on its first trade and loses twice that on its second. -/
theorem statistics_reconcile_turned :
    ∃ result, Backtest.run Sample.strategy Sample.period Sample.history Sample.turnedSeries
        Registry.builtin = .ok result ∧
      result.openPosition = none ∧
      result.trades.map (·.profit) = [100, -200] ∧
      Sample.period.equity * result.statistics.totalReturn =
        (winners result.trades).length * result.statistics.averageGain +
          (losers result.trades).length * result.statistics.averageLoss ∧
      result.statistics.Reconciles result.trades ∧
      compute result.trades.reverse result.curve Sample.period.equity = result.statistics := by
  obtain ⟨adds, runs⟩ := statistics_reconcile
  obtain ⟨final, simulated, success⟩ := Backtest.run_complete Sample.strategy_valid
    Sample.period_valid Sample.history Sample.turnedSeries Registry.builtin
  rw [Sample.tradingDays_turned] at simulated
  have outcome : ((Backtest.simulate Sample.strategy Registry.builtin Sample.turnedSeries
      (Portfolio.start Sample.period.equity) Sample.turnedDays).toOption.all fun account =>
        account.position.isNone && account.trades.map (·.profit) == [100, -200]) = true := by
    decide +kernel
  rw [simulated] at outcome
  simp only [Except.toOption, Option.all_some, Bool.and_eq_true, Option.isNone_iff_eq_none,
    beq_iff_eq] at outcome
  obtain ⟨free, profits⟩ := outcome
  obtain ⟨reconciles, anyOrder⟩ := adds final.trades final.curve Sample.period.equity
  exact ⟨_, success, free, profits, runs _ _ _ _ _ _ success free, reconciles,
    anyOrder _ (List.reverse_perm _)⟩

end Statistics

end DailySignals
