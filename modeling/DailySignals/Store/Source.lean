import DailySignals.Failure
import DailySignals.Market.PriceBar
import DailySignals.Screen.Filter

/-!
# Sources of data

Runs and screens read snapshots and price bars from a source.  A source
promises no order of the rows it gives, except that bars come in date order.
-/

set_option autoImplicit false

namespace DailySignals

/-- One instrument's history, between dates if they are given. -/
structure HistoryQuery where
  symbol : String
  start : Option Date := none
  finish : Option Date := none
  limit : Option Nat := none
  onlySuccess : Bool := true

namespace HistoryQuery

def includes {α : Type} (query : HistoryQuery) (snapshot : Snapshot α) : Bool :=
  snapshot.symbol == query.symbol && (!query.onlySuccess || snapshot.success) &&
    query.start.all (fun start => decide (start ≤ snapshot.date)) &&
    query.finish.all (fun finish => decide (snapshot.date ≤ finish))

end HistoryQuery

/-- What runs and screens read from. -/
structure Source (α : Type) where
  history : HistoryQuery → Except (Failure α) (List (Snapshot α))
  onDate : Date → SnapshotFilter α → Except (Failure α) (List (Snapshot α))
  prices : String → Except (Failure α) (List (PriceBar α))

namespace Source

variable {α : Type}

/-- The first bar of a symbol on a date. -/
def priceOn (source : Source α) (symbol : String) (date : Date) :
    Except (Failure α) (Option (PriceBar α)) :=
  (source.prices symbol).map fun bars => bars.find? fun bar => bar.date == date

/-- Rows with the newest first; those of one date keep their order. -/
def newestFirst (rows : List (Snapshot α)) : List (Snapshot α) :=
  rows.mergeSort fun first second => decide (second.date ≤ first.date)

/-- The most recent rows, as many as a limit allows. -/
def mostRecent (limit : Option Nat) (rows : List (Snapshot α)) : List (Snapshot α) :=
  match limit with
  | none => newestFirst rows
  | some limit => (newestFirst rows).take limit

end Source

end DailySignals
