import Mathlib.Algebra.Order.Field.Rat
import DailySignals.Arithmetic

/-!
# Comparisons that can be relied on

Doubles are not ordered by `<`: not-a-number is neither below nor above
anything.  What screens and filters need of their numbers is less than an order
and holds of doubles too, whatever their values: no two numbers lie below each
other, and the total order that sorts numbers is one.  Of subtraction and division
runs need no more than that an amount without change has lost nothing.
-/

set_option autoImplicit false

namespace DailySignals

/-- An arithmetic whose comparisons do not contradict each other. -/
class LawfulOrder (α : Type) [Arithmetic α] : Prop where
  not_lt_of_lt {x y : α} : x < y → ¬ y < x
  not_lt_of_le {x y : α} : x ≤ y → ¬ y < x
  order_trans : Std.TransCmp (Arithmetic.order : α → α → Ordering)

namespace LawfulOrder

instance {α : Type} [Arithmetic α] [LawfulOrder α] :
    Std.TransCmp (Arithmetic.order : α → α → Ordering) :=
  order_trans

/-! ## Exact numbers -/

theorem order_rat (x y : Rat) : Arithmetic.order x y = compare x y := by
  change (if x < y then Ordering.lt else if y < x then .gt else .eq) = compare x y
  rcases lt_trichotomy x y with below | rfl | above
  · rw [if_pos below, compare_lt_iff_lt.mpr below]
  · rw [if_neg (lt_irrefl x), if_neg (lt_irrefl x), compare_eq_iff_eq.mpr rfl]
  · rw [if_neg above.not_gt, if_pos above, compare_gt_iff_gt.mpr above]

instance : LawfulOrder Rat where
  not_lt_of_lt := fun below => not_lt_of_ge (le_of_lt below)
  not_lt_of_le := fun below => not_lt_of_ge below
  order_trans := by
    have same : (Arithmetic.order : Rat → Rat → Ordering) = compare := by
      funext x y
      exact order_rat x y
    rw [same]
    infer_instance

/-! ## Doubles -/

open Float.Model

/-- Compared the other way round, two doubles give the opposite answer, or none
as before. -/
theorem compare_swap (x y : UnpackedFloat) :
    y.compare x = (x.compare y).map Ordering.swap := by
  cases x with
  | notANumber => cases y <;> rfl
  | infinity sign =>
      cases y with
      | infinity other => cases sign <;> cases other <;> rfl
      | notANumber => cases sign <;> rfl
      | zero => cases sign <;> rfl
      | finite => cases sign <;> rfl
  | zero =>
      cases y with
      | infinity other => cases other <;> rfl
      | finite other => cases other <;> rfl
      | notANumber => rfl
      | zero => rfl
  | finite sign mantissa exponent =>
      cases y with
      | infinity other => cases other <;> rfl
      | zero => cases sign <;> rfl
      | notANumber => rfl
      | finite other otherMantissa otherExponent =>
          have swapped : (compare otherExponent exponent).then (compare otherMantissa mantissa) =
              ((compare exponent otherExponent).then
                (compare mantissa otherMantissa)).swap := by
            rw [Ordering.swap_then, ← Std.OrientedCmp.eq_swap, ← Std.OrientedCmp.eq_swap]
          -- doubles of one sign are compared by exponent and mantissa
          cases sign with
          | positive =>
              cases other with
              | positive => exact congrArg some swapped
              | negative => rfl
          | negative =>
              cases other with
              | positive => rfl
              | negative => exact congrArg (some ·.swap) swapped

theorem float_lt_iff {x y : Float} :
    x < y ↔ x.toModel.unpack.compare y.toModel.unpack = some .lt := by
  change decide (x.toModel < y.toModel) = true ↔ _
  rw [decide_eq_true_eq]
  change (x.toModel.unpack.compare y.toModel.unpack == some .lt) = true ↔ _
  rw [beq_iff_eq]

theorem float_le_iff {x y : Float} :
    x ≤ y ↔ (x.toModel.unpack.compare y.toModel.unpack).any (·.isLE) = true := by
  change decide (x.toModel ≤ y.toModel) = true ↔ _
  rw [decide_eq_true_eq]
  rfl

theorem compare_zero_above (x : UnpackedFloat) :
    (x.compare (.zero .positive)).any (·.isLE) = false ↔
      UnpackedFloat.compare (.zero .positive) x = some .lt ∨ x.isNaN = true := by
  cases x with
  | notANumber => exact ⟨fun _ => .inr rfl, fun _ => rfl⟩
  | infinity sign => cases sign <;> decide
  | zero sign => cases sign <;> decide
  | finite sign mantissa exponent positive =>
      cases sign with
      | positive => exact ⟨fun _ => .inl rfl, fun _ => rfl⟩
      | negative =>
          constructor
          · intro above
            cases above
          · rintro (above | undefined)
            · cases above
            · cases undefined

/-- What does not lie at zero or below lies above it, or is not a number. -/
theorem float_not_le_zero_iff {x : Float} :
    ¬ x ≤ Arithmetic.ofNat 0 ↔ Arithmetic.ofNat 0 < x ∨ Arithmetic.isNaN x = true := by
  rw [float_le_iff, float_lt_iff, Bool.not_eq_true]
  exact compare_zero_above _

theorem float_not_lt_of_isNaN {x y : Float} (undefined : y.isNaN = true) : ¬ x < y := by
  rw [float_lt_iff]
  change y.toModel.unpack.isNaN = true at undefined
  intro below
  cases unpacked : y.toModel.unpack with
  | notANumber =>
      rw [unpacked, compare_swap] at below
      cases below
  | infinity =>
      rw [unpacked] at undefined
      cases undefined
  | zero =>
      rw [unpacked] at undefined
      cases undefined
  | finite =>
      rw [unpacked] at undefined
      cases undefined

instance : LawfulOrder Float where
  not_lt_of_lt := by
    intro x y below above
    rw [float_lt_iff] at below above
    rw [compare_swap, below] at above
    cases above
  not_lt_of_le := by
    intro x y below above
    rw [float_le_iff] at below
    rw [float_lt_iff, compare_swap] at above
    cases compared : x.toModel.unpack.compare y.toModel.unpack with
    | none =>
        rw [compared] at above
        cases above
    | some answer =>
        rw [compared] at below above
        cases answer with
        | lt => cases above
        | eq => cases above
        | gt => cases below
  order_trans := inferInstanceAs (Std.TransCmp (compareOn Binary.orderKey))

end LawfulOrder

/-! ## Changes -/

/-- An arithmetic in which an amount that stayed what it was has changed by a
fraction of zero.  Of doubles this asks for a finite amount. -/
class LawfulChange (α : Type) [Arithmetic α] : Prop where
  unchanged {x : α} : Arithmetic.isPositive x = true → Arithmetic.isFinite x = true →
    (x - x) / x = 0

namespace LawfulChange

theorem not_le_unchanged {α : Type} [Arithmetic α] [LawfulOrder α] [LawfulChange α]
    {x limit : α} (positive : Arithmetic.isPositive x = true)
    (finite : Arithmetic.isFinite x = true) (above : Arithmetic.isPositive limit = true) :
    ¬ limit ≤ (x - x) / x := by
  rw [unchanged positive finite]
  intro below
  exact LawfulOrder.not_lt_of_le below (of_decide_eq_true above)

instance : LawfulChange Rat where
  unchanged := by
    intro x _ _
    change (x - x) / x = Arithmetic.ofNat 0
    rw [sub_self, zero_div]
    decide +kernel

open Float.Model

theorem unpacked_sub_self (sign : UnpackedFloat.Sign) (mantissa : Nat) (exponent : Int)
    (positive : 0 < mantissa) :
    UnpackedFloat.sub Format.binary64 (.finite sign mantissa exponent positive)
      (.finite sign mantissa exponent positive) = .zero .positive := by
  let shifted := (UnpackedFloat.decreaseExponent mantissa exponent (min exponent exponent)).1
  change UnpackedFloat.normalize Format.binary64 (sign.apply shifted - sign.apply shifted)
    (min exponent exponent) .positive = _
  rw [Int.sub_self]
  rfl

instance : LawfulChange Float where
  unchanged := by
    intro x above finite
    change x.toModel.unpack.isFinite = true at finite
    rw [Arithmetic.isPositive, decide_eq_true_eq, LawfulOrder.float_lt_iff] at above
    change (Arithmetic.ofNat 0 : Float).toModel.unpack.compare _ = _ at above
    cases unpacked : x.toModel.unpack with
    | notANumber =>
        rw [unpacked] at finite
        cases finite
    | infinity =>
        rw [unpacked] at finite
        cases finite
    | zero =>
        rw [unpacked] at above
        cases above
    | finite sign mantissa exponent nonzero =>
        have difference : x - x = Float.ofModel (pack (.zero .positive)) := by
          change Float.ofModel (pack (UnpackedFloat.sub Format.binary64
            x.toModel.unpack x.toModel.unpack)) = _
          rw [unpacked, unpacked_sub_self]
        rw [difference]
        change Float.ofModel (pack (UnpackedFloat.div Format.binary64
          (unpack (pack (.zero .positive))) x.toModel.unpack)) = _
        rw [unpacked] at above ⊢
        cases sign with
        | negative => cases above
        | positive =>
            change Float.ofModel (pack (.zero .positive)) = (Arithmetic.ofNat 0 : Float)
            decide +kernel

end LawfulChange

end DailySignals
