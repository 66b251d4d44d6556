import DailySignals.Json.Record
import DailySignals.Json.Writer
import DailySignals.Screen.Order
import DailySignals.Screen.Page
import DailySignals.Scoring.Rule
import DailySignals.Trading.Live

/-!
# The JSON form of domain values

Each record has its fields in a fixed order under fixed names.  Writing and
reading use the same names; tags and fields are read through their name lookup,
and a live record leaves absent exit fields out.  The form of numbers may be
chosen by the writer, for readers that tell infinities apart.
-/

set_option autoImplicit false

namespace DailySignals

namespace Json

def ofDate (date : Date) : Json :=
  ofString date.text

def tag? (json : Json) : Option Tag :=
  (text? json).map Tag.ofName

def field? (json : Json) : Option Field :=
  (text? json).map Field.ofName

end Json

open Json

namespace Snapshot

def jsonFields : List String :=
  ["symbol", "market", "industry", "trade_date", "close", "change", "change_rate", "return5",
    "return20", "return60", "ma5", "ma10", "ma20", "ma60", "deviation20", "high20", "low20",
    "range_pos20", "volume_multiple", "amplitude", "avg_amplitude20", "score", "tags",
    "success", "error_reason"]

def ofJson? (json : Json) : Option (Snapshot Float) := do
  match ← fields? jsonFields json with
  | [symbol, market, industry, date, close, change, changeRate, return5, return20, return60,
      ma5, ma10, ma20, ma60, deviation20, high20, low20, rangePos20, volumeMultiple, amplitude,
      avgAmplitude20, score, tags, success, errorReason] =>
      return {
        symbol := ← required text? symbol
        market := ← required text? market
        industry := ← required text? industry
        date := ← required date? date
        close := ← required float? close
        change := ← required float? change
        changeRate := ← required float? changeRate
        return5 := ← optional float? return5
        return20 := ← optional float? return20
        return60 := ← optional float? return60
        ma5 := ← optional float? ma5
        ma10 := ← optional float? ma10
        ma20 := ← optional float? ma20
        ma60 := ← optional float? ma60
        deviation20 := ← optional float? deviation20
        high20 := ← optional float? high20
        low20 := ← optional float? low20
        rangePos20 := ← optional float? rangePos20
        volumeMultiple := ← optional float? volumeMultiple
        amplitude := ← optional float? amplitude
        avgAmplitude20 := ← optional float? avgAmplitude20
        score := ← required float? score
        tags := ← required (list? tag?) tags
        success := ← required bool? success
        errorReason := ← optional text? errorReason }
  | _ => none

def toJsonWith (number : Float → Json) (snapshot : Snapshot Float) : Json :=
  record (jsonFields.zip
    [ofString snapshot.symbol, ofString snapshot.market, ofString snapshot.industry,
      ofDate snapshot.date, number snapshot.close, number snapshot.change,
      number snapshot.changeRate, ofOption number snapshot.return5,
      ofOption number snapshot.return20, ofOption number snapshot.return60,
      ofOption number snapshot.ma5, ofOption number snapshot.ma10,
      ofOption number snapshot.ma20, ofOption number snapshot.ma60,
      ofOption number snapshot.deviation20, ofOption number snapshot.high20,
      ofOption number snapshot.low20, ofOption number snapshot.rangePos20,
      ofOption number snapshot.volumeMultiple, ofOption number snapshot.amplitude,
      ofOption number snapshot.avgAmplitude20, number snapshot.score,
      array (snapshot.tags.map fun tag => ofString tag.name), bool snapshot.success,
      ofOption ofString snapshot.errorReason])

def toJson : Snapshot Float → Json :=
  toJsonWith ofFloat

end Snapshot

namespace PriceBar

def jsonFields : List String :=
  ["symbol", "date", "open", "high", "low", "close", "volume"]

def ofJson? (json : Json) : Option (PriceBar Float) := do
  match ← fields? jsonFields json with
  | [symbol, date, opening, high, low, close, volume] =>
      return {
        symbol := ← required text? symbol
        date := ← required date? date
        opening := ← required float? opening
        high := ← required float? high
        low := ← required float? low
        close := ← required float? close
        volume := ← required int64? volume }
  | _ => none

def toJsonWith (number : Float → Json) (bar : PriceBar Float) : Json :=
  record (jsonFields.zip
    [ofString bar.symbol, ofDate bar.date, number bar.opening, number bar.high,
      number bar.low, number bar.close, ofInt bar.volume])

def toJson : PriceBar Float → Json :=
  toJsonWith ofFloat

end PriceBar

namespace RiskSettings

def jsonFields : List String :=
  ["order_size_mode", "order_size_value", "fees_pct", "slippage_pct", "stop_loss_pct",
    "take_profit_pct", "max_daily_loss_pct", "cooldown_days", "min_hold_days",
    "max_positions", "price_mode"]

def sizing? : Json → Option Sizing :=
  choice? ([Sizing.fixedNotional, .percentOfEquity].map fun sizing => (sizing.name, sizing))

def ofJson? (json : Json) : Option (RiskSettings Float) := do
  match ← fields? jsonFields json with
  | [sizing, orderSize, fees, slippage, stopLoss, takeProfit, maxDailyLoss, cooldownDays,
      minHoldDays, maxPositions, fillMode] =>
      return {
        sizing := ← required sizing? sizing
        orderSize := ← required float? orderSize
        fees := ← required float? fees
        slippage := ← required float? slippage
        stopLoss := ← optional float? stopLoss
        takeProfit := ← optional float? takeProfit
        maxDailyLoss := ← optional float? maxDailyLoss
        cooldownDays := ← required (count? Numeral.limit32) cooldownDays
        minHoldDays := ← required (count? Numeral.limit32) minHoldDays
        maxPositions := ← required (count? Numeral.limit32) maxPositions
        fillMode := ← required (choice? FillMode.names) fillMode }
  | _ => none

def toJsonWith (number : Float → Json) (risk : RiskSettings Float) : Json :=
  record (jsonFields.zip
    [ofString risk.sizing.name, number risk.orderSize, number risk.fees,
      number risk.slippage, ofOption number risk.stopLoss, ofOption number risk.takeProfit,
      ofOption number risk.maxDailyLoss, ofNat risk.cooldownDays, ofNat risk.minHoldDays,
      ofNat risk.maxPositions, ofString risk.fillMode.name])

def toJson : RiskSettings Float → Json :=
  toJsonWith ofFloat

end RiskSettings

namespace ScoringRule

def jsonFields : List String :=
  ["condition_type", "params", "weight", "kind"]

def side? : Json → Option RuleSide :=
  choice? ([RuleSide.entry, .exit].map fun side => (side.name, side))

def ofJson? (json : Json) : Option (ScoringRule Float) := do
  match ← fields? jsonFields json with
  | [kind, params, weight, side] =>
      return {
        kind := ← required text? kind
        params := ← required text? params
        weight := ← required float? weight
        side := ← required side? side }
  | _ => none

def toJson (rule : ScoringRule Float) : Json :=
  record (jsonFields.zip
    [ofString rule.kind, ofString rule.params, ofFloat rule.weight, ofString rule.side.name])

end ScoringRule

namespace Position

def jsonFields : List String :=
  ["entry_date", "entry_price", "quantity", "cost_basis"]

def ofJson? (json : Json) : Option (Position Float) := do
  match ← fields? jsonFields json with
  | [entryDate, entryPrice, quantity, costBasis] =>
      return {
        entryDate := ← required date? entryDate
        entryPrice := ← required float? entryPrice
        quantity := ← required float? quantity
        costBasis := ← required float? costBasis }
  | _ => none

def toJsonWith (number : Float → Json) (position : Position Float) : Json :=
  record (jsonFields.zip
    [ofDate position.entryDate, number position.entryPrice, number position.quantity,
      number position.costBasis])

def toJson : Position Float → Json :=
  toJsonWith ofFloat

end Position

namespace Trade

def jsonFields : List String :=
  ["symbol", "entry_date", "entry_price", "exit_date", "exit_price", "quantity", "pnl",
    "pnl_pct", "hold_days", "reason"]

def ofJson? (json : Json) : Option (Trade Float) := do
  match ← fields? jsonFields json with
  | [symbol, entryDate, entryPrice, exitDate, exitPrice, quantity, profit, profitRate, holdDays,
      reason] =>
      return {
        symbol := ← required text? symbol
        entryDate := ← required date? entryDate
        entryPrice := ← required float? entryPrice
        exitDate := ← required date? exitDate
        exitPrice := ← required float? exitPrice
        quantity := ← required float? quantity
        profit := ← required float? profit
        profitRate := ← required float? profitRate
        holdDays := ← required int64? holdDays
        reason := ← required (choice? ExitReason.choices) reason }
  | _ => none

def toJsonWith (number : Float → Json) (trade : Trade Float) : Json :=
  record (jsonFields.zip
    [ofString trade.symbol, ofDate trade.entryDate, number trade.entryPrice,
      ofDate trade.exitDate, number trade.exitPrice, number trade.quantity,
      number trade.profit, number trade.profitRate, ofInt trade.holdDays,
      ofString trade.reason.name])

def toJson : Trade Float → Json :=
  toJsonWith ofFloat

end Trade

namespace EquityPoint

def jsonFields : List String :=
  ["date", "equity"]

def ofJson? (json : Json) : Option (EquityPoint Float) := do
  match ← fields? jsonFields json with
  | [date, equity] => return ⟨← required date? date, ← required float? equity⟩
  | _ => none

def toJson (point : EquityPoint Float) : Json :=
  record (jsonFields.zip [ofDate point.date, ofFloat point.equity])

end EquityPoint

namespace TradeRecord

def jsonFields : List String :=
  ["strategy", "symbol", "env", "side", "entry_date", "entry_price", "exit_date", "exit_price",
    "pnl", "pnl_pct", "hold_days", "reason"]

def ofJson? (json : Json) : Option (TradeRecord Float) := do
  match ← fields? jsonFields json with
  | [strategy, symbol, environment, side, entryDate, entryPrice, exitDate, exitPrice, profit,
      profitRate, holdDays, reason] =>
      return {
        strategy := ← required text? strategy
        symbol := ← required text? symbol
        environment := ← required (choice? Environment.choices) environment
        side := ← required (choice? OrderSide.choices) side
        entryDate := ← required date? entryDate
        entryPrice := ← required float? entryPrice
        exitDate := ← optional date? exitDate
        exitPrice := ← optional float? exitPrice
        profit := ← optional float? profit
        profitRate := ← optional float? profitRate
        holdDays := ← optional int64? holdDays
        reason := ← optional (choice? ExitReason.choices) reason }
  | _ => none

/-- A member that is left out where its value is absent. -/
def member {β : Type} (name : String) (write : β → Json) (value : Option β) :
    List (String × Json) :=
  (value.map fun value => (name, write value)).toList

def toJson (trade : TradeRecord Float) : Json :=
  record
    ([("strategy", ofString trade.strategy), ("symbol", ofString trade.symbol),
      ("env", ofString trade.environment.name), ("side", ofString trade.side.name),
      ("entry_date", ofDate trade.entryDate), ("entry_price", ofFloat trade.entryPrice)] ++
      member "exit_date" ofDate trade.exitDate ++
      member "exit_price" ofFloat trade.exitPrice ++
      member "pnl" ofFloat trade.profit ++
      member "pnl_pct" ofFloat trade.profitRate ++
      member "hold_days" ofInt trade.holdDays ++
      member "reason" (fun reason => ofString reason.name) trade.reason)

end TradeRecord

namespace SortOrder

def jsonFields : List String :=
  ["field", "descending"]

def ofJson? (json : Json) : Option SortOrder := do
  match ← fields? jsonFields json with
  | [field, descending] => return ⟨← required field? field, ← required bool? descending⟩
  | _ => none

def toJson (order : SortOrder) : Json :=
  record (jsonFields.zip [ofString order.field.name, bool order.descending])

end SortOrder

namespace PageRequest

def jsonFields : List String :=
  ["offset", "limit"]

def ofJson? (json : Json) : Option PageRequest := do
  match ← fields? jsonFields json with
  | [offset, limit] =>
      return ⟨← required (count? Numeral.limit64) offset,
        ← required (count? Numeral.limit64) limit⟩
  | _ => none

def toJson (request : PageRequest) : Json :=
  record (jsonFields.zip [ofNat request.offset, ofNat request.limit])

end PageRequest

end DailySignals
