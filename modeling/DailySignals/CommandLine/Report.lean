import DailySignals.Config.Build
import DailySignals.Text.Pad
import DailySignals.Trading.Live

/-!
# Reports

The lines that commands print for people.
-/

set_option autoImplicit false

namespace DailySignals

namespace Report

open Text (padLeft padRight)

/-- A number with a fixed count of places. -/
def fixed (places : Nat) (x : Float) : String :=
  Fixed.write places x

/-- A fraction in per cent. -/
def percent (places : Nat) (x : Float) : String :=
  fixed places (x * 100) ++ "%"

def titled (strategy : Strategy Float) : String :=
  strategy.name ++ " (" ++ strategy.symbol ++ ")"

def profitFactor : Option Float → String
  | some factor => fixed 2 factor
  | none => "n/a"

/-- The line of a position that is still open. -/
def openPosition (position : Position Float) : String :=
  "Open Position:    " ++ fixed 4 position.quantity ++ " @ " ++ fixed 4 position.entryPrice ++
    " since " ++ position.entryDate.text

def backtest (strategy : Strategy Float) (period : Period Float) (result : Backtest Float) :
    List String :=
  let statistics := result.statistics
  ["\n=== Backtest Results ===",
    "Strategy:         " ++ titled strategy,
    "Period:           " ++ period.start.text ++ " to " ++ period.finish.text,
    "Initial Equity:   " ++ fixed 2 period.equity] ++
  (result.curve.getLast?.map fun point => "Final Equity:     " ++ fixed 2 point.equity).toList ++
  ["Total Return:     " ++ percent 2 statistics.totalReturn,
    "Max Drawdown:     -" ++ percent 1 statistics.maxDrawdown,
    "Total Trades:     " ++ toString statistics.tradeCount,
    "Win Rate:         " ++ percent 1 statistics.winRate,
    "Avg Gain:         " ++ fixed 2 statistics.averageGain,
    "Avg Loss:         " ++ fixed 2 statistics.averageLoss,
    "Profit Factor:    " ++ profitFactor statistics.profitFactor,
    "Avg Hold Days:    " ++ fixed 1 statistics.averageHoldDays,
    "Largest Win:      " ++ fixed 2 statistics.largestWin,
    "Largest Loss:     " ++ fixed 2 statistics.largestLoss] ++
  (result.openPosition.map openPosition).toList

/-- The columns of a screen. -/
def screenLine (symbol market close score value : String) : String :=
  " ".intercalate
    [padRight 10 symbol, padRight 8 market, padLeft 10 close, padLeft 8 score,
      padLeft 14 value]

def screenRow (field : Field) (snapshot : Snapshot Float) : String :=
  screenLine snapshot.symbol snapshot.market (fixed 2 snapshot.close) (fixed 1 snapshot.score)
    (((snapshot.value? field).map (fixed 4)).getD "-")

def screen (order : SortOrder) (rows : List (Snapshot Float)) : List String :=
  ["\n=== Screener Results ===",
    screenLine "Symbol" "Market" "Close" "Score" order.field.name] ++
  rows.map (screenRow order.field)

def screenTotals (shown total : Nat) (hasMore : Bool) : String :=
  "\n" ++ toString shown ++ " shown of " ++ toString total ++ " matches" ++
    (if hasMore then " (more available)" else "")

/-- The columns of a forward study. -/
def horizonLine (horizon samples averageReturn winRate : String) : String :=
  " ".intercalate
    [padLeft 8 horizon, padLeft 8 samples, padLeft 12 averageReturn, padLeft 10 winRate]

def horizonRow (statistics : HorizonStatistics Float) : String :=
  horizonLine (toString statistics.horizon) (toString statistics.samples)
    (percent 2 statistics.averageReturn) (percent 1 statistics.winRate)

def forward (strategy : Strategy Float) (study : ForwardStudy Float) : List String :=
  ["\n=== Forward Study ===",
    "Strategy:         " ++ titled strategy,
    "Days:             " ++ toString study.events.length,
    "Triggered:        " ++ toString study.triggeredCount,
    "Simulated trades: " ++ toString study.summary.count,
    "Compounded:       " ++ percent 2 study.summary.totalReturn,
    "Trade win rate:   " ++ percent 1 study.summary.winRate] ++
  (if study.horizons.isEmpty then ["No horizon has a complete sample."]
  else
    ("\n" ++ horizonLine "Horizon" "Samples" "Avg Return" "Win Rate") ::
      study.horizons.map horizonRow)

def signals : Signals Float → List String
  | .conditions buy sell => ["  Buy:  " ++ buy.text, "  Sell: " ++ sell.text]
  | .scoring rules =>
      ["  Entry threshold: " ++ Printed.text rules.entryThreshold] ++
      rules.entryRules.map (fun rule => "    " ++ rule.text) ++
      ["  Exit threshold:  " ++ Printed.text rules.exitThreshold] ++
      rules.exitRules.map (fun rule => "    " ++ rule.text)

def optionalNumber : Option Float → String
  | some value => Printed.text value
  | none => "none"

def strategy (strategy : Strategy Float) : List String :=
  let (stopLoss, takeProfit) := strategy.hardStops
  ("\nStrategy: " ++ titled strategy) :: signals strategy.signals ++
  ["  Risk: " ++ strategy.risk.sizing.name ++ " " ++ Printed.text strategy.risk.orderSize ++
      " per order, stop-loss " ++ optionalNumber stopLoss ++ ", take-profit " ++
      optionalNumber takeProfit ++ ", price mode " ++ strategy.risk.fillMode.name,
    "\nStrategy configuration is valid."]

/-- The lines that report a failure. -/
def failure (failure : Failure Float) : List String :=
  let place := match failure with
    | .unparsed fault (some setting) =>
        ["error: failed to parse " ++ setting.key ++ ":\n" ++ fault.withContext setting.text]
    | _ => []
  place ++ ["error: " ++ failure.message]

end Report

end DailySignals
