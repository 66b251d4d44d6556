import DailySignals.Store.Source

/-!
# Data held in memory
-/

set_option autoImplicit false

namespace DailySignals

/-- Snapshots and bars of all symbols, in the order they were delivered. -/
structure MemoryStore (α : Type) where
  snapshots : List (Snapshot α)
  bars : List (PriceBar α)

namespace MemoryStore

variable {α : Type}

/-- Newest first; a limit keeps the most recent rows. -/
def history (store : MemoryStore α) (query : HistoryQuery) : List (Snapshot α) :=
  Source.mostRecent query.limit (store.snapshots.filter query.includes)

def onDate [Arithmetic α] (store : MemoryStore α) (date : Date) (filter : SnapshotFilter α) :
    List (Snapshot α) :=
  store.snapshots.filter fun snapshot => snapshot.date == date && filter.accepts snapshot

def prices (store : MemoryStore α) (symbol : String) : List (PriceBar α) :=
  PriceBar.inDateOrder (store.bars.filter fun bar => bar.symbol == symbol)

def source [Arithmetic α] (store : MemoryStore α) : Source α where
  history query := .ok (store.history query)
  onDate date filter := .ok (store.onDate date filter)
  prices symbol := .ok (store.prices symbol)

end MemoryStore

end DailySignals
