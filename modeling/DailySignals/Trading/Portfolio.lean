import DailySignals.Trading.Position

/-!
# The account of a run

Cash, at most one open position, and the trades and equity points recorded so
far.  Opening takes the cost of the position from the cash, and closing gives
it back together with the profit of the trade.
-/

set_option autoImplicit false

namespace DailySignals

structure EquityPoint (α : Type) where
  date : Date
  equity : α

structure Portfolio (α : Type) where
  cash : α
  initial : α
  /-- The value of the account when it was last computed. -/
  equity : α
  position : Option (Position α)
  lastExit : Option Date
  trades : List (Trade α)
  curve : List (EquityPoint α)

namespace Portfolio

variable {α : Type} [Arithmetic α]

def start (initial : α) : Portfolio α :=
  ⟨initial, initial, initial, none, none, [], []⟩

def hasPosition (portfolio : Portfolio α) : Bool :=
  portfolio.position.isSome

/-- The account with a position taken up; nothing while one is open. -/
def opening? (portfolio : Portfolio α) (position : Position α) : Option (Portfolio α) :=
  match portfolio.position with
  | some _ => none
  | none =>
      some { portfolio with
        cash := portfolio.cash - position.costBasis
        position := some position }

/-- The account after a trade closes the open position, which is handed out;
nothing while none is open. -/
def closing? (portfolio : Portfolio α) (trade : Trade α) :
    Option (Position α × Portfolio α) :=
  match portfolio.position with
  | none => none
  | some position =>
      let cash := portfolio.cash + (position.costBasis + trade.profit)
      some (position, { portfolio with
        cash := cash
        equity := cash
        position := none
        lastExit := some trade.exitDate
        trades := portfolio.trades ++ [trade] })

def recordEquity (portfolio : Portfolio α) (date : Date) (equity : α) : Portfolio α :=
  { portfolio with curve := portfolio.curve ++ [⟨date, equity⟩] }

/-- The value of the open position at a price. -/
def heldValue (portfolio : Portfolio α) (close : α) : α :=
  match portfolio.position with
  | none => 0
  | some position => position.marketValue close

/-- Values the account at a day's close and records the value. -/
def markToMarket (portfolio : Portfolio α) (date : Date) (close : α) : Portfolio α :=
  let equity := portfolio.cash + portfolio.heldValue close
  { portfolio with equity := equity }.recordEquity date equity

/-- Calendar days since the last exit. -/
def daysSinceExit (portfolio : Portfolio α) (date : Date) : Option Int :=
  portfolio.lastExit.map date.daysSince

end Portfolio

end DailySignals
