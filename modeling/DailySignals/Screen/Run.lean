import DailySignals.Screen.Order
import DailySignals.Screen.Page
import DailySignals.Store.Source

/-!
# Screening a day

A screen lists the successful snapshots of a day that satisfy a set; a set
without conditions is satisfied by all.  A streak keeps of the listed rows
those whose symbol satisfied the set on each of its last days.
-/

set_option autoImplicit false

namespace DailySignals

namespace Screen

variable {α : Type} [Arithmetic α]

/-- Whether a row belongs to the screen of a day, whatever its source let through. -/
def matchesOn (date : Date) (set : ConditionSet α) (snapshot : Snapshot α) : Bool :=
  snapshot.success && snapshot.date == date && set.holds .everything snapshot

def run (source : Source α) (date : Date) (set : ConditionSet α) (order : SortOrder)
    (request : PageRequest) : Except (Failure α) (Page (Snapshot α)) := do
  set.validate.mapError fun defect => .invalid (.condition defect)
  let candidates ← source.onDate date (SnapshotFilter.ofSet set)
  return Page.ofList request (order.sort (candidates.filter (matchesOn date set)))

/-- The rows whose symbol satisfied the set on each of its last `days`
successful days up to `date`.  One day or none asks nothing. -/
def confirmStreak (source : Source α) (rows : List (Snapshot α)) (date : Date)
    (set : ConditionSet α) (days : Nat) : Except (Failure α) (List (Snapshot α)) :=
  if days ≤ 1 then .ok rows
  else rows.filterM fun snapshot => do
    let history ← source.history { symbol := snapshot.symbol, finish := some date }
    return set.holdsConsecutively history date days

end Screen

end DailySignals
