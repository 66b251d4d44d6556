import DailySignals.Json.Writer
import DailySignals.Trading.Inputs

/-!
# One day of a live strategy

A live run simulates today alone, with the money of one order, and reports what
it did as records for the environment that orders are routed to.
-/

set_option autoImplicit false

namespace DailySignals

inductive Environment where
  | paper
  | real
  | test
  deriving DecidableEq, Repr

namespace Environment

def name : Environment → String
  | paper => "paper"
  | real => "real"
  | test => "test"

def choices : List (String × Environment) :=
  [paper, real, test].map fun environment => (environment.name, environment)

/-- The environment of that name, or the name that is not known. -/
def ofName (text : String) : Except String Environment :=
  let name := Text.asciiLower (Text.trim text)
  match choices.lookup name with
  | some environment => .ok environment
  | none => .error name

end Environment

/-- What a record's order did; only purchases are reported. -/
inductive OrderSide where
  | buy
  deriving DecidableEq, Repr

namespace OrderSide

def name : OrderSide → String
  | buy => "buy"

def choices : List (String × OrderSide) :=
  [("buy", buy)]

end OrderSide

/-- A live trade.  The exit fields are absent while the position is open. -/
structure TradeRecord (α : Type) where
  strategy : String
  symbol : String
  environment : Environment
  side : OrderSide
  entryDate : Date
  entryPrice : α
  exitDate : Option Date
  exitPrice : Option α
  profit : Option α
  profitRate : Option α
  holdDays : Option Int
  reason : Option ExitReason

namespace TradeRecord

variable {α : Type}

def ofTrade (strategy : Strategy α) (environment : Environment) (trade : Trade α) :
    TradeRecord α where
  strategy := strategy.name
  symbol := trade.symbol
  environment := environment
  side := .buy
  entryDate := trade.entryDate
  entryPrice := trade.entryPrice
  exitDate := some trade.exitDate
  exitPrice := some trade.exitPrice
  profit := some trade.profit
  profitRate := some trade.profitRate
  holdDays := some trade.holdDays
  reason := some trade.reason

def ofPosition (strategy : Strategy α) (environment : Environment) (position : Position α) :
    TradeRecord α where
  strategy := strategy.name
  symbol := strategy.symbol
  environment := environment
  side := .buy
  entryDate := position.entryDate
  entryPrice := position.entryPrice
  exitDate := none
  exitPrice := none
  profit := none
  profitRate := none
  holdDays := none
  reason := none

end TradeRecord

namespace Live

/-- Calendar days of history that are read before today. -/
def lookbackDays : Nat := 5

variable {α : Type} [Arithmetic α]

/-- The records of a run: its trades and the position left open. -/
def records (strategy : Strategy α) (environment : Environment) (result : Backtest α) :
    List (TradeRecord α) :=
  result.trades.map (TradeRecord.ofTrade strategy environment) ++
    (result.openPosition.map (TradeRecord.ofPosition strategy environment)).toList

/-- Runs a strategy for today. -/
def run (strategy : Strategy α) (source : Source α) (registry : Registry α) (today : Date)
    (environment : Environment) : Except (Failure α) (List (TradeRecord α)) := do
  let start := (today.subDays? lookbackDays).getD today
  let inputs ← RunInputs.load source strategy.symbol start today
  let result ← Backtest.run strategy ⟨today, today, strategy.risk.orderSize⟩ inputs.history
    inputs.series registry
  return records strategy environment result

end Live

end DailySignals
