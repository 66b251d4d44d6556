import DailySignals.Condition.Basic
import DailySignals.Market.Snapshot

/-!
# Which snapshots satisfy a condition

Absent values and unknown names satisfy nothing.  A streak asks that the most
recent snapshots up to a day all satisfy a set, the last of them on that day.
-/

set_option autoImplicit false

namespace DailySignals

variable {α : Type}

/-- Whether some listed value is the given one, blanks around them and the
case of ASCII letters aside. -/
def namesValue (values : List String) (actual : String) : Bool :=
  values.any fun value => Text.sameName (Text.trim value) (Text.trim actual)

namespace Category

/-- The text a snapshot has in a category. -/
def of? (snapshot : Snapshot α) : Category → Option String
  | market => some snapshot.market
  | industry => some snapshot.industry
  | other _ => none

end Category

variable [Arithmetic α]

namespace Condition

def holds (snapshot : Snapshot α) : Condition α → Bool
  | numeric field comparison => (snapshot.value? field).any comparison.holds
  | category kind values => (kind.of? snapshot).any (namesValue values)
  | tags anyOf allOf noneOf =>
      allOf.all snapshot.hasTag && (anyOf.isEmpty || anyOf.any snapshot.hasTag) &&
        !noneOf.any snapshot.hasTag
  | symbols admitted refused =>
      (admitted.isEmpty || admitted.contains snapshot.symbol) &&
        !refused.contains snapshot.symbol

end Condition

namespace ConditionSet

def holds (policy : EmptyPolicy) (set : ConditionSet α) (snapshot : Snapshot α) : Bool :=
  if set.isEmpty then policy = .everything
  else match set.logic with
    | .all => set.conditions.all (Condition.holds snapshot)
    | .any => set.conditions.any (Condition.holds snapshot)

/-- Successful snapshots up to a day, in date order. -/
def upTo (history : List (Snapshot α)) (date : Date) : List (Snapshot α) :=
  Snapshot.inDateOrder
    (history.filter fun snapshot => snapshot.success && decide (snapshot.date ≤ date))

/-- Whether the `days` most recent successful snapshots up to `date` all
satisfy the set and the last of them is of that very date. -/
def holdsConsecutively (set : ConditionSet α) (history : List (Snapshot α))
    (date : Date) (days : Nat) : Bool :=
  let window := upTo history date
  days != 0 && decide (days ≤ window.length) &&
    (window.getLast?.map (·.date) == some date) &&
    (window.drop (window.length - days)).all (set.holds .nothing)

end ConditionSet

end DailySignals
