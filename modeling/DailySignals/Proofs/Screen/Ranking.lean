import Mathlib.Data.List.Pairwise
import Mathlib.Data.String.Basic
import DailySignals.Proofs.DoubleOrder
import DailySignals.Proofs.Scoring.Inert
import DailySignals.Proofs.Screen.Order

/-!
# What the sort of a screen promises of its rows

Rows without a number come last in either direction, the numbers follow the
direction, and rows of one number follow their symbols.  The last of this fails
for zeros: the total order has two of them, and rows of the one come before rows
of the other whatever their symbols are.
-/

set_option autoImplicit false

namespace DailySignals

namespace SortOrder

/-- A row has a number in the field of the order. -/
def HasValue (order : SortOrder) (row : Snapshot Float) (x : Float) : Prop :=
  row.value? order.field = some x ∧ x.isNaN = false

def IsValued (order : SortOrder) (row : Snapshot Float) : Prop :=
  ∃ x, order.HasValue row x

/-- Rows of equal numbers, and rows without a number. -/
def SameValue (order : SortOrder) (first second : Snapshot Float) : Prop :=
  (∃ x y, order.HasValue first x ∧ order.HasValue second y ∧ (x == y) = true) ∨
    ¬ order.IsValued first ∧ ¬ order.IsValued second

/-- Numbers that may follow each other in the direction of the order. -/
def InDirection (order : SortOrder) (x y : Float) : Prop :=
  if order.descending then y ≤ x else x ≤ y

/-- The zero that comes first in the direction of the order. -/
def firstZero (order : SortOrder) : Float :=
  if order.descending then 0.0 else -0.0

/-- The zero that comes last in the direction of the order. -/
def lastZero (order : SortOrder) : Float :=
  if order.descending then -0.0 else 0.0

variable {order : SortOrder} {first second : Snapshot Float} {x y : Float}

theorem key_eq_some_iff {row : Snapshot Float} :
    order.key? row = some x ↔ order.HasValue row x := by
  unfold key? HasValue
  rw [Option.filter_eq_some_iff, Bool.not_eq_true']
  rfl

theorem key_eq_none_iff {row : Snapshot Float} :
    order.key? row = none ↔ ¬ order.IsValued row := by
  rw [Option.eq_none_iff_forall_ne_some]
  constructor
  · rintro none ⟨x, valued⟩
    exact none x (key_eq_some_iff.mpr valued)
  · intro unvalued x found
    exact unvalued ⟨x, key_eq_some_iff.mp found⟩

theorem compareKeys_of_values (valued : order.HasValue first x)
    (otherValued : order.HasValue second y) :
    compareKeys order.descending (order.key? first) (order.key? second) =
      if order.descending then Arithmetic.order y x else Arithmetic.order x y := by
  have swapped : Arithmetic.order y x = (Arithmetic.order x y).swap := Std.OrientedCmp.eq_swap
  rw [key_eq_some_iff.mpr valued, key_eq_some_iff.mpr otherValued, swapped]
  rfl

/-- The zero that comes first lies below the other one in the total order. -/
theorem compareKeys_zeros (valued : order.HasValue first order.firstZero)
    (otherValued : order.HasValue second order.lastZero) :
    compareKeys order.descending (order.key? first) (order.key? second) = .lt := by
  have zeros : Arithmetic.order (-0.0) (0.0 : Float) = .lt := by decide +kernel
  rw [compareKeys_of_values valued otherValued, firstZero, lastZero]
  cases order.descending with
  | true => exact zeros
  | false => exact zeros

/-! ## Two rows in order -/

section InOrder

variable (notAbove : (order.compareRows first second).isLE = true)
include notAbove

theorem compareKeys_isLE :
    (compareKeys order.descending (order.key? first) (order.key? second)).isLE = true :=
  Ordering.isLE_left_of_isLE_then notAbove

theorem symbol_le_of_keys
    (equal : compareKeys order.descending (order.key? first) (order.key? second) = .eq) :
    first.symbol ≤ second.symbol := by
  rw [compareRows, equal] at notAbove
  exact compare_le_iff_le.mp (Ordering.isLE_iff_ne_gt.mp notAbove)

theorem isValued_of_compareRows (valued : order.IsValued second) : order.IsValued first := by
  by_contra unvalued
  obtain ⟨y, otherValued⟩ := valued
  have keys := compareKeys_isLE notAbove
  rw [key_eq_none_iff.mpr unvalued, key_eq_some_iff.mpr otherValued] at keys
  cases keys

theorem inDirection_of_compareRows (valued : order.HasValue first x)
    (otherValued : order.HasValue second y) : order.InDirection x y := by
  have keys := compareKeys_isLE notAbove
  rw [compareKeys_of_values valued otherValued] at keys
  unfold InDirection
  cases direction : order.descending with
  | true =>
      rw [direction] at keys
      exact Double.le_of_order otherValued.2 valued.2 keys
  | false =>
      rw [direction] at keys
      exact Double.le_of_order valued.2 otherValued.2 keys

/-- Rows of one number are in the order of their symbols, unless they have the
two zeros. -/
theorem symbol_le_of_sameValue (same : order.SameValue first second) :
    first.symbol ≤ second.symbol ∨
      order.HasValue first order.firstZero ∧ order.HasValue second order.lastZero := by
  rcases same with ⟨x, y, valued, otherValued, equal⟩ | ⟨unvalued, otherUnvalued⟩
  · have keys := compareKeys_of_values valued otherValued
    have keysInOrder := compareKeys_isLE notAbove
    have upwards : Arithmetic.order (-0.0) (0.0 : Float) = .lt := by decide +kernel
    have downwards : Arithmetic.order (0.0 : Float) (-0.0) = .gt := by decide +kernel
    rcases Double.order_of_beq valued.2 otherValued.2 equal with
      agree | ⟨rfl, rfl⟩ | ⟨rfl, rfl⟩
    · left
      apply symbol_le_of_keys notAbove
      have swapped : Arithmetic.order y x = .eq := by
        have turned : Arithmetic.order y x = (Arithmetic.order x y).swap :=
          Std.OrientedCmp.eq_swap
        rw [turned, agree]
        rfl
      rw [keys, agree, swapped, ite_self]
    · cases direction : order.descending with
      | true =>
          rw [keys, direction, if_pos rfl, downwards] at keysInOrder
          cases keysInOrder
      | false =>
          right
          rw [firstZero, lastZero, direction]
          exact ⟨valued, otherValued⟩
    · cases direction : order.descending with
      | true =>
          right
          rw [firstZero, lastZero, direction]
          exact ⟨valued, otherValued⟩
      | false =>
          rw [keys, direction, if_neg Bool.false_ne_true, downwards] at keysInOrder
          cases keysInOrder
  · left
    apply symbol_le_of_keys notAbove
    rw [key_eq_none_iff.mpr unvalued, key_eq_none_iff.mpr otherUnvalued]
    rfl

end InOrder

theorem sameValue_zeros (valued : order.HasValue first order.firstZero)
    (otherValued : order.HasValue second order.lastZero) : order.SameValue first second := by
  have equal : (order.firstZero == order.lastZero) = true := by
    rw [firstZero, lastZero]
    cases order.descending with
    | true => decide +kernel
    | false => decide +kernel
  exact .inl ⟨_, _, valued, otherValued, equal⟩

/-- A row that belongs in front of another one stands in front of it. -/
theorem pairwise_sort_of_lt {rows : List (Snapshot Float)}
    {related : Snapshot Float → Snapshot Float → Prop}
    (pairs : (order.sort rows).Pairwise related) (firstIn : first ∈ rows)
    (secondIn : second ∈ rows) (before : order.compareRows first second = .lt) :
    related first second := by
  let ordered (row other : Snapshot Float) : Prop :=
    order.compareRows row other = .lt → related row other
  have symmetric : Std.Symm fun row other => ordered row other ∧ ordered other row :=
    ⟨fun _ _ both => both.symm⟩
  have listed : (order.sort rows).Pairwise fun row other =>
      ordered row other ∧ ordered other row := by
    apply List.Pairwise.imp₂ ?_ (order.sort_sorted rows) pairs
    intro row other notAbove holds
    refine ⟨fun _ => holds, fun above => ?_⟩
    have turned : order.compareRows row other = (order.compareRows other row).swap :=
      Std.OrientedCmp.eq_swap
    rw [turned, above] at notAbove
    cases notAbove
  have alike : ∀ row ∈ order.sort rows, ordered row row ∧ ordered row row := by
    intro row _
    have never : ordered row row := fun less =>
      absurd (Std.ReflCmp.compare_self.symm.trans less) nofun
    exact ⟨never, never⟩
  have same := order.sort_perm rows
  exact (List.Pairwise.forall_of_forall alike listed (same.mem_iff.mpr firstIn)
    (same.mem_iff.mpr secondIn)).1 before

/-- Sorting a screen's rows keeps all of them, puts rows without a number last
and numbers in the direction of the order.  Rows of one number are in the order
of their symbols exactly if the two zeros do not come against it. -/
theorem sort_ranked (order : SortOrder) (rows : List (Snapshot Float)) :
    (order.sort rows).Perm rows ∧
      (order.sort rows).Pairwise (fun first second =>
        order.IsValued second → order.IsValued first) ∧
      (order.sort rows).Pairwise (fun first second => ∀ x y,
        order.HasValue first x → order.HasValue second y → order.InDirection x y) ∧
      ((order.sort rows).Pairwise (fun first second =>
          order.SameValue first second → first.symbol ≤ second.symbol) ↔
        ∀ first ∈ rows, ∀ second ∈ rows, order.HasValue first order.firstZero →
          order.HasValue second order.lastZero → first.symbol ≤ second.symbol) := by
  have sorted := order.sort_sorted rows
  refine ⟨order.sort_perm rows, sorted.imp isValued_of_compareRows, ?_, ?_, ?_⟩
  · exact sorted.imp fun notAbove _ _ => inDirection_of_compareRows notAbove
  · intro ties first firstIn second secondIn valued otherValued
    have before : order.compareRows first second = .lt :=
      Ordering.then_eq_lt.mpr (.inl (compareKeys_zeros valued otherValued))
    exact pairwise_sort_of_lt ties firstIn secondIn before (sameValue_zeros valued otherValued)
  · intro zeros
    apply sorted.imp_of_mem
    intro first second firstIn secondIn notAbove same
    have permuted := order.sort_perm rows
    rcases symbol_le_of_sameValue notAbove same with inOrder | ⟨valued, otherValued⟩
    · exact inOrder
    · exact zeros first (permuted.mem_iff.mp firstIn) second (permuted.mem_iff.mp secondIn)
        valued otherValued

end SortOrder

namespace Sample

/-- A row of a symbol with a score of zero, of either sign. -/
def zeroRow (symbol : String) (zero : Float) : Snapshot Float :=
  { scoredRow zero with symbol := symbol }

end Sample

namespace SortOrder

/-- Upwards by score, the row of the later symbol comes first, although both
scores are zero. -/
theorem zeros_part_symbols :
    let first := Sample.zeroRow "AAA" 0.0
    let second := Sample.zeroRow "BBB" (-0.0)
    let order : SortOrder := ⟨.score, false⟩
    order.SameValue second first ∧ ((0.0 : Float) == -0.0) = true ∧
      order.sort [first, second] = [second, first] ∧ ¬ second.symbol ≤ first.symbol := by
  intro first second order
  refine ⟨?_, by decide +kernel, ?_, by decide⟩
  · exact sameValue_zeros ⟨rfl, by decide +kernel⟩ ⟨rfl, by decide +kernel⟩
  · apply sort_eq_of_increasing (by decide) (.swap _ _ _)
    unfold Increasing
    decide +kernel

end SortOrder

end DailySignals
