import DailySignals.Market.Snapshot
import DailySignals.Scoring.Rule

/-!
# Kinds of evidence

A registry maps the kind of a rule to its evaluator.  Evaluators with a least
value answer one or zero; without it they fall back to a continuous measure
that is not limited to that range.
-/

set_option autoImplicit false

namespace DailySignals

/-- How much one kind of evidence speaks for a snapshot. -/
abbrev Evaluator (α : Type) :=
  RuleParams α → Snapshot α → α

namespace Evaluator

variable {α : Type} [Arithmetic α]

/-- One if the value reaches the least one asked for, else zero; the measure
of the value where none is asked for.  An absent value speaks for nothing. -/
def threshold (value : Option α) (params : RuleParams α) (measure : α → α) : α :=
  match value with
  | none => 0
  | some value =>
      match params.least with
      | some least => if least ≤ value then 1 else 0
      | none => measure value

/-- Whether a number of days has the given whole part. -/
def hasWholePart (days : α) (whole : Nat) : Bool :=
  decide (Arithmetic.ofNat whole ≤ days) && decide (days < Arithmetic.ofNat (whole + 1))

/-- The return over the asked-for span, or the day's own where there is no
return of that span. -/
def returnOver (days : Option α) (snapshot : Snapshot α) : Option α :=
  match days with
  | none => some snapshot.changeRate
  | some days =>
      if hasWholePart days 5 then snapshot.return5
      else if hasWholePart days 20 then snapshot.return20
      else if hasWholePart days 60 then snapshot.return60
      else some snapshot.changeRate

def priceReturn : Evaluator α := fun params snapshot =>
  threshold (returnOver params.days snapshot) params fun value => value * 100

def volumeSurge : Evaluator α := fun params snapshot =>
  threshold snapshot.volumeMultiple params fun value => (value - 1) * 10

def averageDeviation : Evaluator α := fun params snapshot =>
  threshold snapshot.deviation20 params fun value => value * 100

def rangePosition : Evaluator α := fun params snapshot =>
  threshold snapshot.rangePos20 params fun value => (value - 0.5) * 10

def baseScore : Evaluator α := fun _ snapshot =>
  snapshot.score / 100

end Evaluator

/-- Evaluators by kind; of two of one kind the first counts. -/
structure Registry (α : Type) where
  evaluators : List (String × Evaluator α)

namespace Registry

variable {α : Type}

def empty : Registry α :=
  ⟨[]⟩

/-- The registry with one evaluator added, or replaced. -/
def insert (registry : Registry α) (kind : String) (evaluator : Evaluator α) : Registry α :=
  ⟨(kind, evaluator) :: registry.evaluators⟩

def find? (registry : Registry α) (kind : String) : Option (Evaluator α) :=
  registry.evaluators.lookup kind

def contains (registry : Registry α) (kind : String) : Bool :=
  (registry.find? kind).isSome

theorem find?_insert_self (registry : Registry α) (kind : String) (evaluator : Evaluator α) :
    (registry.insert kind evaluator).find? kind = some evaluator := by
  simp [find?, insert]

theorem find?_insert_of_ne (registry : Registry α) {kind other : String}
    (evaluator : Evaluator α) (different : other ≠ kind) :
    (registry.insert kind evaluator).find? other = registry.find? other := by
  have unequal : (other == kind) = false := by simpa using different
  simp only [find?, insert, List.lookup_cons, unequal]

def builtin [Arithmetic α] : Registry α :=
  ⟨[("PRICE_RETURN", Evaluator.priceReturn), ("VOLUME_SURGE", Evaluator.volumeSurge),
    ("MA_DEVIATION", Evaluator.averageDeviation), ("RANGE_POS", Evaluator.rangePosition),
    ("BASE_SCORE", Evaluator.baseScore)]⟩

end Registry

end DailySignals
