import DailySignals.Arithmetic
import DailySignals.Text.Blank
import DailySignals.Text.Case

/-!
# Risk settings

How large an order is, what trading costs, which price fills an order, and the
limits that close a position or keep a new one from being opened.  Fractions
are written as such: 0.001 is a tenth of a per cent.
-/

set_option autoImplicit false

namespace DailySignals

/-- What the size of an order is measured in. -/
inductive Sizing where
  | fixedNotional
  | percentOfEquity
  deriving DecidableEq, Repr

namespace Sizing

def name : Sizing → String
  | fixedNotional => "fixed_notional"
  | percentOfEquity => "percent_of_equity"

/-- The names under which a sizing is known, in small letters. -/
def names : List (String × Sizing) :=
  [("fixed_notional", fixedNotional), ("fixed_usdt", fixedNotional), ("fixed", fixedNotional),
    ("percent_of_equity", percentOfEquity), ("percent", percentOfEquity)]

/-- The sizing of that name, or the name that is not known. -/
def ofName (text : String) : Except String Sizing :=
  let name := Text.asciiLower (Text.trim text)
  match names.lookup name with
  | some sizing => .ok sizing
  | none => .error name

end Sizing

/-- Which price fills an order that is decided on a day. -/
inductive FillMode where
  | currentClose
  | nextOpen
  | nextClose
  deriving DecidableEq, Repr

namespace FillMode

def name : FillMode → String
  | currentClose => "current_close"
  | nextOpen => "next_open"
  | nextClose => "next_close"

def names : List (String × FillMode) :=
  [currentClose, nextOpen, nextClose].map fun mode => (mode.name, mode)

/-- The fill mode of that name, or the name that is not known. -/
def ofName (text : String) : Except String FillMode :=
  let name := Text.asciiLower (Text.trim text)
  match names.lookup name with
  | some mode => .ok mode
  | none => .error name

end FillMode

structure RiskSettings (α : Type) where
  sizing : Sizing
  orderSize : α
  fees : α
  slippage : α
  stopLoss : Option α
  takeProfit : Option α
  maxDailyLoss : Option α
  cooldownDays : Nat
  minHoldDays : Nat
  maxPositions : Nat
  fillMode : FillMode
  deriving DecidableEq, Repr

namespace RiskSettings

/-- Why risk settings cannot be used. -/
inductive Defect where
  | orderSizeNotPositive
  | fractionAboveOne
  | feesNegative
  | slippageNegative
  | limitNotPositive (limit : String)
  | noPositions
  deriving DecidableEq, Repr

namespace Defect

def message : Defect → String
  | orderSizeNotPositive => "order_size_value must be a positive number"
  | fractionAboveOne =>
      "percent_of_equity order size must be a fraction no greater than 1"
  | feesNegative => "fees_pct must be non-negative"
  | slippageNegative => "slippage_pct must be non-negative"
  | limitNotPositive limit => limit ++ " must be positive when set"
  | noPositions => "max_positions must be at least 1"

end Defect

variable {α : Type} [Arithmetic α]

def default : RiskSettings α where
  sizing := .fixedNotional
  orderSize := 1000
  fees := 0.001
  slippage := 0.001
  stopLoss := none
  takeProfit := none
  maxDailyLoss := none
  cooldownDays := 0
  minHoldDays := 0
  maxPositions := 1
  fillMode := .nextOpen

/-- No costs, and orders filled at the close of their own day. -/
def frictionless : RiskSettings α :=
  { default with fees := 0, slippage := 0, fillMode := .currentClose }

/-- Whether a number is finite and above zero. -/
def isSize (value : α) : Bool :=
  Arithmetic.isPositive value && Arithmetic.isFinite value

/-- Whether a number is finite and not below zero. -/
def isCost (value : α) : Bool :=
  !decide (value < 0) && Arithmetic.isFinite value

/-- A limit that is set must be a positive number. -/
def validateLimit (name : String) (limit : Option α) : Except Defect Unit :=
  if limit.all isSize then pure () else throw (.limitNotPositive name)

/-- The first defect, in the order of the settings. -/
def validate (risk : RiskSettings α) : Except Defect Unit := do
  if !isSize risk.orderSize then throw .orderSizeNotPositive
  if risk.sizing = .percentOfEquity ∧ 1 < risk.orderSize then throw .fractionAboveOne
  if !isCost risk.fees then throw .feesNegative
  if !isCost risk.slippage then throw .slippageNegative
  validateLimit "stop_loss_pct" risk.stopLoss
  validateLimit "take_profit_pct" risk.takeProfit
  validateLimit "max_daily_loss_pct" risk.maxDailyLoss
  if risk.maxPositions < 1 then throw .noPositions

/-- The amount that a new order commits at the given equity. -/
def orderNotional (risk : RiskSettings α) (equity : α) : α :=
  match risk.sizing with
  | .fixedNotional => risk.orderSize
  | .percentOfEquity => equity * risk.orderSize

end RiskSettings

end DailySignals
