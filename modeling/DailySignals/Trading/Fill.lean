import DailySignals.Arithmetic
import DailySignals.Market.PriceBar
import DailySignals.Trading.Risk

/-!
# Fills and profit

An order is filled at the close of its day or at a price of the next calendar
day, where that day has a bar with a positive price.  The profit of a round
trip counts slippage on both prices and fees on both amounts.
-/

set_option autoImplicit false

namespace DailySignals

variable {α : Type} [Arithmetic α]

namespace PriceSeries

/-- The price of the next calendar day that a fill mode asks for. -/
def nextPrice? (series : PriceSeries α) (mode : FillMode) (date : Date) : Option α :=
  match mode with
  | .currentClose => none
  | .nextOpen => (series.nextDay? date).map (·.opening)
  | .nextClose => (series.nextDay? date).map (·.close)

/-- The price at which an order decided on `date` is filled. -/
def fillPrice (series : PriceSeries α) (mode : FillMode) (date : Date) (close : α) : α :=
  match series.nextPrice? mode date with
  | some price => if 0 < price then price else close
  | none => close

end PriceSeries

namespace Fill

/-- What is paid for a unit after slippage. -/
def paid (price slippage : α) : α :=
  price * (1 + slippage)

/-- What is received for a unit after slippage. -/
def received (price slippage : α) : α :=
  price * (1 - slippage)

/-- The profit of a round trip, as an amount and as a fraction of what was
paid.  Without a positive price and quantity there is none. -/
def profit (entry exit quantity slippage fees : α) : α × α :=
  if entry ≤ 0 ∨ quantity ≤ 0 then (0, 0)
  else
    let paid := paid entry slippage
    let received := received exit slippage
    let gross := (received - paid) * quantity
    let fee := (paid * quantity + received * quantity) * fees
    let profit := gross - fee
    let invested := paid * quantity
    (profit, if 0 < invested then profit / invested else 0)

end Fill

end DailySignals
