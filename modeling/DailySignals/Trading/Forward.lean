import DailySignals.Failure
import DailySignals.Trading.Exit
import DailySignals.Trading.Statistics

/-!
# What follows an entry signal

The study looks at every successful day in date order.  For each day on which
the strategy would enter, it measures the returns some trading days later.
Beside that it simulates trades of one unit at the closes: entered on a signal
while nothing is held, left when an exit is called for, and closed on the last
day at the latest.
-/

set_option autoImplicit false

namespace DailySignals

/-- One day of the study. -/
structure ForwardEvent (α : Type) where
  date : Date
  close : α
  changeRate : α
  /-- How the entry score comes about, for scoring strategies. -/
  entry : Option (ScoreBreakdown α)
  exitScore : Option α
  triggered : Bool
  /-- Horizon and return, ascending, for days with a signal. -/
  returns : List (Nat × α)

structure HorizonStatistics (α : Type) where
  horizon : Nat
  samples : Nat
  averageReturn : α
  winRate : α

structure TradeSummary (α : Type) where
  count : Nat
  /-- The product of one plus each trade's rate, less one. -/
  totalReturn : α
  winRate : α

structure ForwardStudy (α : Type) where
  events : List (ForwardEvent α)
  /-- Horizons with at least one sample, ascending. -/
  horizons : List (HorizonStatistics α)
  trades : List (Trade α)
  summary : TradeSummary α

namespace ForwardStudy

def defaultHorizons : List Nat :=
  [3, 5, 10]

/-- The horizons of a study: ascending, without repetition and zero. -/
def effectiveHorizons (requested : List Nat) : List Nat :=
  let horizons := if requested.isEmpty then defaultHorizons else requested
  ((horizons.filter (0 < ·)).mergeSort (· ≤ ·)).eraseDups

variable {α : Type} [Arithmetic α]

/-- The part of the close that an exit on a signal costs. -/
def exitCost : α := 0.001

/-- The place of the day that a horizon leads to.  Places have 64 bits, and a sum that
has more wraps around, to an earlier day.  A check for overflow, which would end the
study there, is left out. -/
def placeAfter (index horizon : Nat) : Nat :=
  (index + horizon) % UInt64.size

/-- The returns from the day at a place to the days that horizons lead to from there. -/
def returnsAfter (horizons : List Nat) (days : List (Snapshot α)) (index : Nat)
    (base : Snapshot α) : List (Nat × α) :=
  if base.close ≤ 0 then []
  else horizons.filterMap fun horizon =>
    match days[placeAfter index horizon]? with
    | none => none
    | some target =>
        if 0 < target.close then some (horizon, target.close / base.close - 1) else none

/-- The entry breakdown and the exit score of a day, as far as the strategy
has scores, and whether the day has a signal.  Where there is a breakdown its
total is what is held against the threshold. -/
def scores (strategy : Strategy α) (registry : Registry α) (snapshot : Snapshot α) :
    Except ParamsFault (Option (ScoreBreakdown α) × Option α × Bool) :=
  match strategy.signals with
  | .conditions _ _ => do
      let triggered ← strategy.entrySignal registry snapshot
      return (none, none, triggered)
  | .scoring rules => do
      let entry ← ScoreBreakdown.compute registry rules.entryRules snapshot
      let triggered := decide (rules.entryThreshold ≤ entry.total)
      if rules.exitRules.isEmpty then return (some entry, none, triggered)
      else
        let exitScore ← registry.score rules.exitRules snapshot
        return (some entry, some exitScore, triggered)

/-- The event of the day at a place among all days. -/
def event (strategy : Strategy α) (registry : Registry α) (horizons : List Nat)
    (days : List (Snapshot α)) (index : Nat) (snapshot : Snapshot α) :
    Except ParamsFault (ForwardEvent α) := do
  let (entry, exitScore, triggered) ← scores strategy registry snapshot
  return {
    date := snapshot.date
    close := snapshot.close
    changeRate := snapshot.changeRate
    entry := entry
    exitScore := exitScore
    triggered := triggered
    returns := if triggered then returnsAfter horizons days index snapshot else [] }

/-- The events of consecutive days, the first of which has a place among all days. -/
def eventsFrom (strategy : Strategy α) (registry : Registry α) (horizons : List Nat)
    (days : List (Snapshot α)) :
    (index : Nat) → List (Snapshot α) → Except ParamsFault (List (ForwardEvent α))
  | _, [] => .ok []
  | index, snapshot :: following => do
      let first ← event strategy registry horizons days index snapshot
      let others ← eventsFrom strategy registry horizons days (index + 1) following
      return first :: others

def eventsOf (strategy : Strategy α) (registry : Registry α) (horizons : List Nat)
    (days : List (Snapshot α)) : Except ParamsFault (List (ForwardEvent α)) :=
  eventsFrom strategy registry horizons days 0 days

/-- A trade of one unit, left at a day's close less a part of it. -/
def simulatedTrade (strategy : Strategy α) (position : Position α) (day : Snapshot α)
    (reason : ExitReason) (cost : α) : Trade α :=
  let received := day.close * (1 - cost)
  { symbol := strategy.symbol
    entryDate := position.entryDate
    entryPrice := position.entryPrice
    exitDate := day.date
    exitPrice := day.close
    quantity := position.quantity
    profit := (received - position.entryPrice) * position.quantity
    profitRate := received / position.entryPrice - 1
    holdDays := position.holdDays day.date
    reason := reason }

/-- The trades of consecutive days, each with whether it has a signal, that
begin with a position held or not; what is held at the end is closed on `last`,
the last day of all. -/
def tradesFrom (strategy : Strategy α) (registry : Registry α) (last : Option (Snapshot α)) :
    Option (Position α) → List (Snapshot α × Bool) → Except ParamsFault (List (Trade α))
  | none, [] => .ok []
  | some position, [] =>
      .ok (last.toList.map fun day => simulatedTrade strategy position day .endOfData 0)
  | none, (day, triggered) :: days =>
      let held :=
        if triggered && Arithmetic.isPositive day.close then
          some (Position.opened day.date day.close 1)
        else none
      tradesFrom strategy registry last held days
  | some position, (day, _) :: days => do
      match ← Exit.decision strategy registry day position day.close with
      | none => tradesFrom strategy registry last (some position) days
      | some reason =>
          let others ← tradesFrom strategy registry last none days
          return simulatedTrade strategy position day reason exitCost :: others

/-- The returns measured for one horizon, in date order. -/
def samplesOf (events : List (ForwardEvent α)) (horizon : Nat) : List α :=
  events.filterMap fun event => event.returns.lookup horizon

def horizonStatistics (events : List (ForwardEvent α)) (horizon : Nat) :
    Option (HorizonStatistics α) :=
  let samples := samplesOf events horizon
  if samples.isEmpty then none
  else
    let count := Arithmetic.ofNat samples.length
    some {
      horizon := horizon
      samples := samples.length
      averageReturn := Arithmetic.sum samples / count
      winRate := Arithmetic.ofNat (samples.filter Arithmetic.isPositive).length / count }

def summarize (trades : List (Trade α)) : TradeSummary α :=
  if trades.isEmpty then ⟨0, 0, 0⟩
  else
    let compounded := trades.foldl (fun total trade => total * (1 + trade.profitRate)) 1
    ⟨trades.length, compounded - 1,
      Arithmetic.ofNat (trades.filter (·.isWin)).length / Arithmetic.ofNat trades.length⟩

/-- The number of days with a signal. -/
def triggeredCount (study : ForwardStudy α) : Nat :=
  (study.events.filter (·.triggered)).length

/-- The successful days of a history in date order. -/
def studyDays (history : List (Snapshot α)) : List (Snapshot α) :=
  Snapshot.inDateOrder (history.filter (·.success))

def run (strategy : Strategy α) (history : List (Snapshot α)) (requested : List Nat)
    (registry : Registry α) : Except (Failure α) (ForwardStudy α) := do
  strategy.validate.mapError fun defect => .invalid (.strategy defect)
  let horizons := effectiveHorizons requested
  let days := studyDays history
  let events ← (eventsOf strategy registry horizons days).mapError .params
  let signalled := days.zip (events.map (·.triggered))
  let trades ← (tradesFrom strategy registry days.getLast? none signalled).mapError .params
  return {
    events := events
    horizons := horizons.filterMap (horizonStatistics events)
    trades := trades
    summary := summarize trades }

end ForwardStudy

end DailySignals
