import DailySignals.Calendar.Text
import DailySignals.Decimal.Layout
import DailySignals.Trading.Portfolio

/-!
# Writing comma-separated text

A table is its header and its rows, each ended by a line feed; without rows
there is no header either.  A field is quoted only where it holds a comma, a
quote or a line break.
-/

set_option autoImplicit false

namespace DailySignals

namespace Csv

def needsQuotes (field : List Char) : Bool :=
  field.any fun c => c = ',' || c = '"' || c = '\r' || c = '\n'

def field (text : String) : List Char :=
  let chars := text.toList
  if needsQuotes chars then
    '"' :: (chars.flatMap fun c => if c = '"' then ['"', '"'] else [c]) ++ ['"']
  else chars

def line (fields : List String) : String :=
  ",".intercalate (fields.map fun text => String.ofList (field text)) ++ "\n"

def table (header : List String) (rows : List (List String)) : String :=
  if rows.isEmpty then "" else String.join ((header :: rows).map line)

def number (x : Float) : String :=
  Layout.table.write x

def tradeColumns : List String :=
  ["symbol", "entry_date", "entry_price", "exit_date", "exit_price", "quantity", "pnl",
    "pnl_pct", "hold_days", "reason"]

def tradeRow (trade : Trade Float) : List String :=
  [trade.symbol, trade.entryDate.text, number trade.entryPrice, trade.exitDate.text,
    number trade.exitPrice, number trade.quantity, number trade.profit,
    number trade.profitRate, toString trade.holdDays, trade.reason.name]

/-- The text of a table of trades. -/
def ofTrades (trades : List (Trade Float)) : String :=
  table tradeColumns (trades.map tradeRow)

/-- The text of an equity curve. -/
def ofCurve (curve : List (EquityPoint Float)) : String :=
  table ["date", "equity"] (curve.map fun point => [point.date.text, number point.equity])

end Csv

end DailySignals
