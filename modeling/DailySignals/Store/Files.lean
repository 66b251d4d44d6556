import DailySignals.Csv.Row
import DailySignals.Store.Source

/-!
# Data in files

Below a base directory, `analytics.csv` holds the snapshots of all symbols and
`prices/SYMBOL.csv` the bars of one.  Files are reached through a function from
paths to contents.  A symbol without a price file has no bars.
-/

set_option autoImplicit false

namespace DailySignals

/-- A path and one more part of it.  A part that is itself absolute stands
alone. -/
def joinPath (base part : String) : String :=
  if part.startsWith "/" || base.isEmpty then part
  else if base.endsWith "/" then base ++ part
  else base ++ "/" ++ part

/-- A base directory, and what reading a file gives. -/
structure FileStore where
  base : String
  read : String → Except FileFault String

namespace FileStore

open Csv Csv.Row

/-- The known tags of a list with bars between. -/
def tagsOf (text : String) : List Tag :=
  ((text.toList.splitOn '|').map fun name => Tag.ofName (String.ofList name)).filter (·.isKnown)

def snapshot? (row : Row) : Option (Snapshot Float) := do
  let number := Numeral.float?
  return {
    symbol := ← required row "symbol" text?
    market := ← defaulted row "market" "" text?
    industry := ← defaulted row "industry" "" text?
    date := ← required row "trade_date" Date.readLoose?
    close := ← required row "close" number
    change := ← defaulted row "change" 0 number
    changeRate := ← defaulted row "change_rate" 0 number
    return5 := ← optional row "return5" number
    return20 := ← optional row "return20" number
    return60 := ← optional row "return60" number
    ma5 := ← optional row "ma5" number
    ma10 := ← optional row "ma10" number
    ma20 := ← optional row "ma20" number
    ma60 := ← optional row "ma60" number
    deviation20 := ← optional row "deviation20" number
    high20 := ← optional row "high20" number
    low20 := ← optional row "low20" number
    rangePos20 := ← optional row "range_pos20" number
    volumeMultiple := ← optional row "volume_multiple" number
    amplitude := ← optional row "amplitude" number
    avgAmplitude20 := ← optional row "avg_amplitude20" number
    score := ← defaulted row "score" 0 number
    tags := tagsOf (← defaulted row "tags" "" text?)
    success := ← required row "success" bool?
    errorReason := ← optional row "error_reason" text? }

def bar? (symbol : String) (row : Row) : Option (PriceBar Float) := do
  return {
    symbol := symbol
    date := ← required row "date" Date.readLoose?
    opening := ← required row "open" Numeral.float?
    high := ← required row "high" Numeral.float?
    low := ← required row "low" Numeral.float?
    close := ← required row "close" Numeral.float?
    volume := ← required row "volume" int64? }

def analyticsPath (store : FileStore) : String :=
  joinPath store.base "analytics.csv"

def pricePath (store : FileStore) (symbol : String) : String :=
  joinPath (joinPath store.base "prices") (symbol ++ ".csv")

/-- The rows of a table in a file.  A directory opens like a file and fails at
its first row. -/
def table {β : Type} (store : FileStore) (path : String) (read : Row → Option β) :
    Except (Failure Float) (List β) :=
  match store.read path with
  | .error .isDirectory => .error (.data (.badRow path 1))
  | .error fault => .error (.data (.unreadable path fault))
  | .ok text => (readTable read text).mapError fun row => .data (.badRow path row)

/-- All snapshots in the order of the file. -/
def snapshots (store : FileStore) : Except (Failure Float) (List (Snapshot Float)) :=
  store.table store.analyticsPath snapshot?

/-- In the order of the file, unless a limit leaves rows out. -/
def history (store : FileStore) (query : HistoryQuery) :
    Except (Failure Float) (List (Snapshot Float)) := do
  let rows := (← store.snapshots).filter query.includes
  match query.limit with
  | none => return rows
  | some limit => return if limit < rows.length then Source.mostRecent (some limit) rows else rows

def onDate (store : FileStore) (date : Date) (filter : SnapshotFilter Float) :
    Except (Failure Float) (List (Snapshot Float)) := do
  return (← store.snapshots).filter fun snapshot =>
    snapshot.date == date && filter.accepts snapshot

def prices (store : FileStore) (symbol : String) :
    Except (Failure Float) (List (PriceBar Float)) :=
  let path := store.pricePath symbol
  match store.read path with
  | .error .missing | .error .notDirectory => .ok []
  | _ => (store.table path (bar? symbol)).map PriceBar.inDateOrder

def source (store : FileStore) : Source Float where
  history := store.history
  onDate := store.onDate
  prices := store.prices

end FileStore

end DailySignals
