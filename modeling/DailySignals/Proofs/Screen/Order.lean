import DailySignals.Proofs.NumberOrder
import DailySignals.Screen.Order

/-!
# The order of a screen is a total order of symbols

Rows are compared by their values and then by their symbols, and this
comparison is transitive whatever the values are.  So rows of different symbols
are never equal in it, and there is one way only to put them in order: the
result of the sort does not depend on the order in which rows arrive.
-/

set_option autoImplicit false

namespace DailySignals

namespace SortOrder

variable {α : Type} [Arithmetic α]

/-- Rows of which each comes before all later ones. -/
def Increasing (order : SortOrder) (rows : List (Snapshot α)) : Prop :=
  rows.Pairwise fun first second => order.compareRows first second = .lt

/-- Rows that neither comes before the other have the same symbol. -/
theorem symbol_eq_of_compareRows {order : SortOrder} {first second : Snapshot α}
    (equal : order.compareRows first second = .eq) : first.symbol = second.symbol := by
  rw [compareRows, Ordering.then_eq_eq] at equal
  exact Std.LawfulEqOrd.eq_of_compare equal.2

theorem sort_perm (order : SortOrder) (rows : List (Snapshot α)) :
    (order.sort rows).Perm rows :=
  List.mergeSort_perm rows _

variable [LawfulOrder α]

/-! ## The comparison is transitive -/

instance compareKeys_trans (descending : Bool) :
    Std.TransCmp (compareKeys descending : Option α → Option α → Ordering) where
  eq_swap := by
    intro first second
    cases first with
    | none => cases second <;> rfl
    | some x =>
        cases second with
        | none => rfl
        | some y =>
            have swapped : Arithmetic.order x y = (Arithmetic.order y x).swap :=
              Std.OrientedCmp.eq_swap
            cases descending with
            | false => exact swapped
            | true => exact congrArg Ordering.swap swapped
  isLE_trans := by
    intro first second third below above
    cases first with
    | none =>
        cases second with
        | none => exact above
        | some y => cases below
    | some x =>
        cases second with
        | none =>
            cases third with
            | none => rfl
            | some z => cases above
        | some y =>
            cases third with
            | none => rfl
            | some z =>
                cases descending with
                | false => exact LawfulOrder.order_trans.isLE_trans below above
                | true =>
                    -- downwards the numbers are compared the other way round
                    have reversed : ∀ a b : α, compareKeys true (some a) (some b) =
                        Arithmetic.order b a :=
                      fun _ _ => Std.OrientedCmp.eq_swap.symm
                    rw [reversed] at below above ⊢
                    exact LawfulOrder.order_trans.isLE_trans above below

instance compareByKey_trans (order : SortOrder) :
    Std.TransCmp fun first second : Snapshot α =>
      compareKeys order.descending (order.key? first) (order.key? second) where
  eq_swap := (compareKeys_trans order.descending).eq_swap
  isLE_trans := (compareKeys_trans order.descending).isLE_trans

instance compareRows_trans (order : SortOrder) :
    Std.TransCmp (order.compareRows : Snapshot α → Snapshot α → Ordering) :=
  inferInstanceAs (Std.TransCmp (compareLex
    (fun first second : Snapshot α =>
      compareKeys order.descending (order.key? first) (order.key? second))
    (compareOn (·.symbol))))

/-! ## Rows in order -/

theorem Increasing.eq_of_perm {order : SortOrder} {first second : List (Snapshot α)}
    (firstIncreasing : order.Increasing first) (secondIncreasing : order.Increasing second)
    (same : first.Perm second) : first = second := by
  apply same.eq_of_pairwise ?_ firstIncreasing secondIncreasing
  intro row other _ _ before after
  exact absurd after (Std.OrientedCmp.not_lt_of_lt before)

/-- No row comes out of the sort before one that belongs in front of it. -/
theorem sort_sorted (order : SortOrder) (rows : List (Snapshot α)) :
    (order.sort rows).Pairwise fun first second =>
      (order.compareRows first second).isLE = true := by
  have notGreater : ∀ first second : Snapshot α,
      (order.compareRows first second != .gt) = (order.compareRows first second).isLE := by
    intro first second
    cases order.compareRows first second <;> rfl
  unfold sort
  simp only [notGreater]
  apply List.pairwise_mergeSort
  · intro first second third
    exact Std.TransCmp.isLE_trans
  · intro first second
    have swapped : order.compareRows first second =
        (order.compareRows second first).swap := Std.OrientedCmp.eq_swap
    rw [swapped]
    cases order.compareRows second first <;> rfl

/-- Rows of different symbols come out of the sort in strict order. -/
theorem sort_increasing (order : SortOrder) {rows : List (Snapshot α)}
    (distinct : (rows.map (·.symbol)).Nodup) : order.Increasing (order.sort rows) := by
  have different : (order.sort rows).Pairwise
      fun first second => first.symbol ≠ second.symbol := by
    rw [← List.pairwise_map]
    exact ((order.sort_perm rows).map (·.symbol)).nodup_iff.mpr distinct
  apply List.Pairwise.imp₂ ?_ (order.sort_sorted rows) different
  intro first second notAbove apart
  cases compared : order.compareRows first second with
  | lt => rfl
  | eq => exact absurd (symbol_eq_of_compareRows compared) apart
  | gt =>
      rw [compared] at notAbove
      cases notAbove

/-- The sort of rows is known from any way to put them in strict order. -/
theorem sort_eq_of_increasing {order : SortOrder} {rows sorted : List (Snapshot α)}
    (distinct : (rows.map (·.symbol)).Nodup) (same : sorted.Perm rows)
    (increasing : order.Increasing sorted) : order.sort rows = sorted :=
  (order.sort_increasing distinct).eq_of_perm increasing
    ((order.sort_perm rows).trans same.symm)

/-- The sort does not depend on the order in which rows arrive. -/
theorem sort_eq_of_perm (order : SortOrder) {rows others : List (Snapshot α)}
    (same : rows.Perm others) (distinct : (others.map (·.symbol)).Nodup) :
    order.sort rows = order.sort others :=
  sort_eq_of_increasing ((same.map (·.symbol)).nodup_iff.mpr distinct)
    ((order.sort_perm others).trans same.symm) (order.sort_increasing distinct)

end SortOrder

end DailySignals
