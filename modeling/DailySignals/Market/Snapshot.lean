import DailySignals.Arithmetic
import DailySignals.Calendar.Date
import DailySignals.Market.Field
import DailySignals.Market.Tag

/-!
# Snapshots

What is known of one instrument on one day.  A metric that could not be
computed is absent.  A snapshot of a failed day says why, and takes no part in
runs and screens.
-/

set_option autoImplicit false

namespace DailySignals

structure Snapshot (α : Type) where
  symbol : String
  market : String
  industry : String
  date : Date
  close : α
  change : α
  changeRate : α
  return5 : Option α
  return20 : Option α
  return60 : Option α
  ma5 : Option α
  ma10 : Option α
  ma20 : Option α
  ma60 : Option α
  deviation20 : Option α
  high20 : Option α
  low20 : Option α
  rangePos20 : Option α
  volumeMultiple : Option α
  amplitude : Option α
  avgAmplitude20 : Option α
  score : α
  tags : List Tag
  success : Bool
  errorReason : Option String

namespace Snapshot

variable {α : Type}

/-- The value that a condition on the field looks at. -/
def value? (snapshot : Snapshot α) : Field → Option α
  | .close => some snapshot.close
  | .change => some snapshot.change
  | .changeRate => some snapshot.changeRate
  | .return5 => snapshot.return5
  | .return20 => snapshot.return20
  | .return60 => snapshot.return60
  | .ma5 => snapshot.ma5
  | .ma10 => snapshot.ma10
  | .ma20 => snapshot.ma20
  | .ma60 => snapshot.ma60
  | .deviation20 => snapshot.deviation20
  | .high20 => snapshot.high20
  | .low20 => snapshot.low20
  | .rangePos20 => snapshot.rangePos20
  | .volumeMultiple => snapshot.volumeMultiple
  | .amplitude => snapshot.amplitude
  | .avgAmplitude20 => snapshot.avgAmplitude20
  | .score => some snapshot.score
  | .other _ => none

/-- Unknown tags are never carried, even where one stands in the list. -/
def hasTag (snapshot : Snapshot α) (tag : Tag) : Bool :=
  tag.isKnown && snapshot.tags.contains tag

/-- Snapshots by date; those of one date keep their order. -/
def inDateOrder (snapshots : List (Snapshot α)) : List (Snapshot α) :=
  snapshots.mergeSort fun first second => decide (first.date ≤ second.date)

end Snapshot

end DailySignals
