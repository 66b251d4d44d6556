import DailySignals.Arithmetic
import DailySignals.Calendar.Date

/-!
# Positions and trades

A position is held from the day it is opened.  Closing it makes a trade, which
says what became of it and why it was closed.
-/

set_option autoImplicit false

namespace DailySignals

/-- Why a position is closed. -/
inductive ExitReason where
  | stopLoss
  | takeProfit
  | sellCondition
  | signalDecay
  | endOfData
  deriving DecidableEq, Repr

namespace ExitReason

def name : ExitReason → String
  | stopLoss => "stop_loss"
  | takeProfit => "take_profit"
  | sellCondition => "sell_condition"
  | signalDecay => "signal_decay"
  | endOfData => "end_of_data"

def choices : List (String × ExitReason) :=
  [stopLoss, takeProfit, sellCondition, signalDecay, endOfData].map fun reason =>
    (reason.name, reason)

/-- Hard stops close a position however short it has been held. -/
def isHardStop : ExitReason → Bool
  | stopLoss | takeProfit => true
  | _ => false

end ExitReason

structure Position (α : Type) where
  entryDate : Date
  entryPrice : α
  quantity : α
  /-- What was taken from the cash when the position was opened. -/
  costBasis : α

namespace Position

variable {α : Type} [Arithmetic α]

def opened (date : Date) (price quantity : α) : Position α :=
  ⟨date, price, quantity, quantity * price⟩

def marketValue (position : Position α) (price : α) : α :=
  position.quantity * price

/-- Calendar days held up to a date. -/
def holdDays (position : Position α) (date : Date) : Int :=
  date.daysSince position.entryDate

end Position

structure Trade (α : Type) where
  symbol : String
  entryDate : Date
  entryPrice : α
  exitDate : Date
  exitPrice : α
  quantity : α
  profit : α
  /-- The profit as a fraction of what was paid. -/
  profitRate : α
  holdDays : Int
  reason : ExitReason

namespace Trade

variable {α : Type} [Arithmetic α]

def isWin (trade : Trade α) : Bool :=
  Arithmetic.isPositive trade.profit

def isLoss (trade : Trade α) : Bool :=
  decide (trade.profit < 0)

end Trade

end DailySignals
