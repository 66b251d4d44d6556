import Mathlib.Order.Bounds.Basic
import Mathlib.Algebra.Order.Field.Basic
import Mathlib.Data.List.Induction
import Mathlib.Tactic.Tauto
import DailySignals.Proofs.Backtest.Completion
import DailySignals.Proofs.Exact

/-!
# The deepest fall of a curve

The peak of a point is the highest of the initial value and of the values up to
the point, and its fall is what the point lacks of that peak, as a fraction of it.
One pass over the curve finds the deepest fall, although it does not look at the
fall of a point that is a new peak: such a point falls by nothing (`Tracks`).
-/

set_option autoImplicit false

namespace DailySignals

namespace Statistics

theorem larger_rat : (larger : Rat → Rat → Rat) = max := by
  funext best value
  rw [larger, max_def_lt]

theorem isGreatest_foldl_max {β : Type} [LinearOrder β] (best : β) (values : List β) :
    IsGreatest (insert best {value | value ∈ values}) (values.foldl max best) := by
  induction values using List.reverseRecOn with
  | nil => simp
  | append_singleton rest last ih =>
      have oneMore : (insert best {value | value ∈ rest ++ [last]} : Set β) =
          insert last (insert best {value | value ∈ rest}) := by
        ext value
        simp only [List.mem_append, List.mem_singleton, Set.mem_insert_iff, Set.mem_ofPred_eq]
        tauto
      rw [oneMore, List.foldl_append, List.foldl_cons, List.foldl_nil, max_comm]
      exact ih.insert last

/-- The highest of the initial value and the values of some points. -/
def peakOf (initial : Rat) (points : List (EquityPoint Rat)) : Rat :=
  (points.map (·.equity)).foldl max initial

/-- The highest value up to the point at an index. -/
def peakAt (initial : Rat) (curve : List (EquityPoint Rat)) (index : Nat) : Rat :=
  peakOf initial (curve.take (index + 1))

/-- The falls of all points of a curve. -/
def falls (initial : Rat) (curve : List (EquityPoint Rat)) : Set Rat :=
  {fall | ∃ index point, curve[index]? = some point ∧
    fall = (peakAt initial curve index - point.equity) / peakAt initial curve index}

/-- A state of the pass that knows the points so far. -/
structure Tracks (initial : Rat) (done : List (EquityPoint Rat)) (state : Drawdown Rat) :
    Prop where
  peak_eq : state.peak = peakOf initial done
  deepest : IsGreatest (insert 0 (falls initial done)) state.deepest

variable {initial : Rat} {curve done : List (EquityPoint Rat)} {point : EquityPoint Rat}
  {index : Nat} {state : Drawdown Rat}

/-! ## Peaks -/

theorem peakOf_le_iff {bound : Rat} :
    peakOf initial done ≤ bound ↔ initial ≤ bound ∧ ∀ point ∈ done, point.equity ≤ bound := by
  rw [peakOf, isLUB_le_iff (isGreatest_foldl_max initial _).isLUB, upperBounds_insert]
  simp [upperBounds]

theorem initial_le_peakOf : initial ≤ peakOf initial done :=
  (peakOf_le_iff.mp le_rfl).1

theorem peakOf_concat :
    peakOf initial (done ++ [point]) = max (peakOf initial done) point.equity := by
  simp [peakOf]

theorem le_peakAt {later : Nat} (found : curve[index]? = some point) (before : index ≤ later) :
    point.equity ≤ peakAt initial curve later := by
  have reached : point ∈ curve.take (later + 1) := by
    apply List.mem_of_getElem? (i := index)
    rw [List.getElem?_take_of_lt (by omega), found]
  exact (peakOf_le_iff.mp le_rfl).2 point reached

theorem peakAt_pos (positive : 0 < initial) : 0 < peakAt initial curve index :=
  positive.trans_le initial_le_peakOf

theorem peakAt_concat_of_lt (earlier : index < done.length) :
    peakAt initial (done ++ [point]) index = peakAt initial done index := by
  rw [peakAt, List.take_append_of_le_length earlier, peakAt]

theorem peakAt_concat_length :
    peakAt initial (done ++ [point]) done.length = peakOf initial (done ++ [point]) := by
  rw [peakAt, List.take_of_length_le (by simp)]

/-! ## Falls -/

theorem falls_nil : falls initial [] = ∅ := by
  simp [falls]

/-- One more point has one more fall, and leaves those before it as they are. -/
theorem falls_concat :
    falls initial (done ++ [point]) =
      insert ((peakOf initial (done ++ [point]) - point.equity) /
        peakOf initial (done ++ [point])) (falls initial done) := by
  ext fall
  constructor
  · rintro ⟨index, other, found, rfl⟩
    obtain ⟨inside, _⟩ := List.getElem?_eq_some_iff.mp found
    rw [List.length_append, List.length_singleton] at inside
    by_cases earlier : index < done.length
    · rw [List.getElem?_append_left earlier] at found
      exact .inr ⟨index, other, found, by rw [peakAt_concat_of_lt earlier]⟩
    · have last : index = done.length := by omega
      subst last
      rw [List.getElem?_concat_length, Option.some.injEq] at found
      subst found
      rw [peakAt_concat_length]
      exact Set.mem_insert _ _
  · rintro (rfl | ⟨index, other, found, rfl⟩)
    · refine ⟨done.length, point, List.getElem?_concat_length, ?_⟩
      rw [peakAt_concat_length]
    · obtain ⟨earlier, _⟩ := List.getElem?_eq_some_iff.mp found
      refine ⟨index, other, ?_, ?_⟩
      · rw [List.getElem?_append_left earlier, found]
      · rw [peakAt_concat_of_lt earlier]

theorem fall_nonpos_iff (positive : 0 < initial) :
    (peakAt initial curve index - point.equity) / peakAt initial curve index ≤ 0 ↔
      peakAt initial curve index ≤ point.equity := by
  rw [div_le_iff₀ (peakAt_pos positive), zero_mul, sub_nonpos]

/-- A curve nowhere falls if no value is followed by a lower one and the first is
not below the initial value. -/
theorem no_falls_iff :
    (∀ index point, curve[index]? = some point → peakAt initial curve index ≤ point.equity) ↔
      (curve.map (·.equity)).Pairwise (· ≤ ·) ∧
        ∀ first, curve.head? = some first → initial ≤ first.equity := by
  rw [List.pairwise_map]
  constructor
  · intro level
    constructor
    · rw [List.pairwise_iff_getElem]
      intro index later _ inside before
      have above : _ ≤ peakAt initial curve later :=
        le_peakAt (List.getElem?_eq_getElem (by omega : index < curve.length)) before.le
      exact above.trans (level later _ (List.getElem?_eq_getElem inside))
    · intro first isFirst
      rw [List.head?_eq_getElem?] at isFirst
      exact initial_le_peakOf.trans (level 0 first isFirst)
  · rintro ⟨ordered, start⟩ index point found
    have upTo : curve.take (index + 1) = curve.take index ++ [point] := by
      rw [List.take_add_one, found, Option.toList_some]
    have below : ∀ other ∈ curve.take (index + 1), other.equity ≤ point.equity := by
      have inTurn := ordered.sublist (List.take_sublist (index + 1) curve)
      rw [upTo, List.pairwise_append] at inTurn
      intro other member
      rw [upTo, List.mem_append, List.mem_singleton] at member
      rcases member with earlier | rfl
      · exact inTurn.2.2 other earlier point (List.mem_singleton_self point)
      · exact le_rfl
    cases curve with
    | nil => cases found
    | cons first rest =>
        exact peakOf_le_iff.mpr ⟨(start first rfl).trans (below first (by simp)), below⟩

/-! ## One pass -/

theorem Drawdown.step_rat (state : Drawdown Rat) (point : EquityPoint Rat) :
    state.step point =
      if state.peak < point.equity then { state with peak := point.equity }
      else if 0 < state.peak then
        { state with deepest := max state.deepest ((state.peak - point.equity) / state.peak) }
      else state := by
  rw [step, larger_rat, Arithmetic.numeral_rat, Nat.cast_zero]

theorem tracks_start : Tracks initial [] ⟨initial, 0⟩ where
  peak_eq := rfl
  deepest := by
    rw [falls_nil]
    simp

theorem Tracks.step (tracks : Tracks initial done state) (positive : 0 < initial) :
    Tracks initial (done ++ [point]) (state.step point) := by
  have peak := tracks.peak_eq
  have standing : 0 < state.peak := by
    rw [peak]
    exact positive.trans_le initial_le_peakOf
  rw [Drawdown.step_rat]
  by_cases higher : state.peak < point.equity
  · -- a new peak, from which the point falls by nothing
    have newPeak : peakOf initial (done ++ [point]) = point.equity := by
      rw [peakOf_concat, ← peak, max_eq_right higher.le]
    have deepest := tracks.deepest
    rw [if_pos higher]
    refine ⟨newPeak.symm, ?_⟩
    rw [falls_concat, newPeak, sub_self, zero_div, Set.insert_eq_of_mem (Set.mem_insert _ _)]
    exact deepest
  · have samePeak : peakOf initial (done ++ [point]) = state.peak := by
      rw [peakOf_concat, ← peak, max_eq_left (not_lt.mp higher)]
    rw [if_neg higher, if_pos standing]
    refine ⟨samePeak.symm, ?_⟩
    rw [falls_concat, samePeak, Set.insert_comm, max_comm]
    exact tracks.deepest.insert _

theorem Tracks.foldl (tracks : Tracks initial done state) (positive : 0 < initial)
    (rest : List (EquityPoint Rat)) :
    Tracks initial (done ++ rest) (rest.foldl Drawdown.step state) := by
  induction rest generalizing done state with
  | nil => rwa [List.append_nil]
  | cons point rest ih =>
      rw [List.foldl_cons, List.append_cons]
      exact ih (tracks.step positive)

theorem maxDrawdownOf_isGreatest (positive : 0 < initial) :
    IsGreatest (insert 0 (falls initial curve)) (maxDrawdownOf curve initial) := by
  rw [maxDrawdownOf, Arithmetic.numeral_rat, Nat.cast_zero]
  exact (tracks_start.foldl positive curve).deepest

/-- The drawdown of a run is the greatest of zero and the falls of all points of its
curve.  It is zero exactly if the curve starts no lower than the initial value and
never falls, and at most the whole where no value is negative. -/
theorem maxDrawdown_deepest (trades : List (Trade Rat)) (curve : List (EquityPoint Rat))
    (initial : Rat) (positive : 0 < initial) :
    IsGreatest (insert 0 (falls initial curve)) (compute trades curve initial).maxDrawdown ∧
      ((compute trades curve initial).maxDrawdown = 0 ↔
        (curve.map (·.equity)).Pairwise (· ≤ ·) ∧
          ∀ first, curve.head? = some first → initial ≤ first.equity) ∧
      ((∀ point ∈ curve, 0 ≤ point.equity) →
        0 ≤ (compute trades curve initial).maxDrawdown ∧
          (compute trades curve initial).maxDrawdown ≤ 1) := by
  have deepest : IsGreatest (insert 0 (falls initial curve))
      (compute trades curve initial).maxDrawdown := maxDrawdownOf_isGreatest positive
  have nonneg : 0 ≤ (compute trades curve initial).maxDrawdown :=
    deepest.2 (Set.mem_insert _ _)
  refine ⟨deepest, ?_, ?_⟩
  · rw [← no_falls_iff]
    constructor
    · intro zero index point found
      rw [← fall_nonpos_iff positive, ← zero]
      exact deepest.2 (.inr ⟨index, point, found, rfl⟩)
    · intro level
      apply le_antisymm ?_ nonneg
      rcases deepest.1 with zero | ⟨index, point, found, isFall⟩
      · exact zero.le
      · rw [isFall, fall_nonpos_iff positive]
        exact level index point found
  · intro solvent
    refine ⟨nonneg, ?_⟩
    rcases deepest.1 with zero | ⟨index, point, found, isFall⟩
    · rw [zero]
      exact zero_le_one
    · rw [isFall, div_le_one (peakAt_pos positive)]
      exact sub_le_self _ (solvent point (List.mem_of_getElem? found))

end Statistics

namespace Sample

/-- A curve that rises to a peak, falls by a quarter of it and half recovers. -/
def fallenCurve : List (EquityPoint Rat) :=
  [⟨firstDay, 12000⟩, ⟨secondDay, 9000⟩, ⟨thirdDay, 10500⟩]

end Sample

namespace Statistics

theorem maxDrawdown_deepest_fallen :
    (0 : Rat) < 10000 ∧ (∀ point ∈ Sample.fallenCurve, 0 ≤ point.equity) ∧
      IsGreatest (insert 0 (falls 10000 Sample.fallenCurve))
        (compute [] Sample.fallenCurve 10000).maxDrawdown ∧
      (compute [] Sample.fallenCurve 10000).maxDrawdown = 1 / 4 ∧
      (compute [] Sample.fallenCurve 10000).maxDrawdown ≤ 1 := by
  have positive : (0 : Rat) < 10000 := by decide
  have solvent : ∀ point ∈ Sample.fallenCurve, 0 ≤ point.equity := by decide
  obtain ⟨deepest, _, within⟩ := maxDrawdown_deepest [] Sample.fallenCurve 10000 positive
  exact ⟨positive, solvent, deepest, by decide +kernel, (within solvent).2⟩

end Statistics

end DailySignals
