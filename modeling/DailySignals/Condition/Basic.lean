import DailySignals.Arithmetic
import DailySignals.Market.Field
import DailySignals.Market.Tag

/-!
# Conditions

A condition is a comparison of a numeric field, a category with its admitted
values, a choice of tags, or a list of admitted and refused symbols.  A set
joins conditions by one logic.  What an empty set means is up to its user:
screens read it as everything, strategies as never.
-/

set_option autoImplicit false

namespace DailySignals

inductive Comparison (α : Type) where
  | above (bound : α)
  | atLeast (bound : α)
  | below (bound : α)
  | atMost (bound : α)
  | between (least greatest : α)
  deriving DecidableEq, Repr

namespace Comparison

variable {α : Type}

def holds [Arithmetic α] : Comparison α → α → Bool
  | above bound, value => decide (bound < value)
  | atLeast bound, value => decide (bound ≤ value)
  | below bound, value => decide (value < bound)
  | atMost bound, value => decide (value ≤ bound)
  | between least greatest, value => decide (least ≤ value) && decide (value ≤ greatest)

/-- Lower and upper bound; every value that satisfies the comparison lies
between them, ends included. -/
def bounds : Comparison α → Option α × Option α
  | above bound | atLeast bound => (some bound, none)
  | below bound | atMost bound => (none, some bound)
  | between least greatest => (some least, some greatest)

end Comparison

/-- A text field of a snapshot with few values. -/
inductive Category where
  | market
  | industry
  | other (name : String)
  deriving DecidableEq, Repr

namespace Category

def name : Category → String
  | market => "market"
  | industry => "industry"
  | other name => name

def isKnown : Category → Bool
  | other _ => false
  | _ => true

def ofName (name : String) : Category :=
  let wanted := Text.trim name
  let lower := Text.asciiLower wanted
  if lower = "market" then market
  else if lower = "industry" then industry
  else other wanted

end Category

inductive Condition (α : Type) where
  | numeric (field : Field) (comparison : Comparison α)
  | category (kind : Category) (values : List String)
  | tags (anyOf allOf noneOf : List Tag)
  | symbols (admitted refused : List String)
  deriving DecidableEq, Repr

inductive Logic where
  | all
  | any
  deriving DecidableEq, Repr

structure ConditionSet (α : Type) where
  logic : Logic
  conditions : List (Condition α)
  deriving DecidableEq, Repr

/-- What a set without conditions stands for. -/
inductive EmptyPolicy where
  | everything
  | nothing
  deriving DecidableEq, Repr

namespace Condition

/-- Why a condition cannot be used. -/
inductive Defect (α : Type) where
  | fieldMissing
  | boundNotFinite (field : Field)
  | rangeReversed (field : Field) (least greatest : α)
  | categoryMissing
  | valuesMissing
  | tagsMissing
  | symbolsMissing
  deriving DecidableEq, Repr

namespace Defect

def message {α : Type} [Printed α] : Defect α → String
  | fieldMissing => "numeric condition missing field"
  | boundNotFinite field =>
      "numeric condition on " ++ field.name ++ " has a non-finite bound"
  | rangeReversed field least greatest =>
      "BETWEEN on " ++ field.name ++ " has min " ++ Printed.text least ++
        " above max " ++ Printed.text greatest
  | categoryMissing => "category condition missing field"
  | valuesMissing => "category condition requires at least one value"
  | tagsMissing => "tags condition requires at least one tag list"
  | symbolsMissing => "symbols condition requires include or exclude"

end Defect

variable {α : Type} [Arithmetic α]

/-- Whether a bound is absent or finite. -/
def isFiniteBound (bound : Option α) : Bool :=
  bound.all Arithmetic.isFinite

def validateComparison (field : Field) (comparison : Comparison α) :
    Except (Defect α) Unit :=
  let (low, high) := comparison.bounds
  if field.name.isEmpty then throw .fieldMissing
  else if !isFiniteBound low || !isFiniteBound high then throw (.boundNotFinite field)
  else match comparison with
    | .between least greatest =>
        if greatest < least then throw (.rangeReversed field least greatest) else pure ()
    | _ => pure ()

def validate : Condition α → Except (Defect α) Unit
  | numeric field comparison => validateComparison field comparison
  | category kind values =>
      if kind = .other "" then throw .categoryMissing
      else if values.all Text.isAllBlank then throw .valuesMissing
      else pure ()
  | tags anyOf allOf noneOf =>
      if anyOf.isEmpty && allOf.isEmpty && noneOf.isEmpty then throw .tagsMissing
      else pure ()
  | symbols admitted refused =>
      if admitted.isEmpty && refused.isEmpty then throw .symbolsMissing else pure ()

end Condition

namespace ConditionSet

variable {α : Type}

def all (conditions : List (Condition α)) : ConditionSet α :=
  ⟨.all, conditions⟩

def empty : ConditionSet α :=
  all []

def isEmpty (set : ConditionSet α) : Bool :=
  set.conditions.isEmpty

/-- The first defect of the first defective condition. -/
def validate [Arithmetic α] (set : ConditionSet α) : Except (Condition.Defect α) Unit :=
  set.conditions.forM Condition.validate

end ConditionSet

end DailySignals
