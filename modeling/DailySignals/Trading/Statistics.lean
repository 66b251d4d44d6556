import DailySignals.Trading.Portfolio

/-!
# Summary of a run

Return and drawdown come from the equity curve, everything else from the trades.
-/

set_option autoImplicit false

namespace DailySignals

structure Statistics (α : Type) where
  totalReturn : α
  maxDrawdown : α
  tradeCount : Nat
  winRate : α
  averageGain : α
  /-- The mean of the losing trades, negative. -/
  averageLoss : α
  /-- Gains over losses; absent where nothing was lost. -/
  profitFactor : Option α
  averageHoldDays : α
  largestWin : α
  largestLoss : α

namespace Statistics

variable {α : Type} [Arithmetic α]

/-- A total over a count, zero for a count of zero. -/
def mean (total : α) (count : Nat) : α :=
  if 0 < count then total / Arithmetic.ofNat count else 0

/-- The larger of a number and one that was met before. -/
def larger (best value : α) : α :=
  if best < value then value else best

def smaller (best value : α) : α :=
  if value < best then value else best

def totalReturnOf (curve : List (EquityPoint α)) (initial : α) : α :=
  let final := (curve.getLast?.map (·.equity)).getD initial
  if 0 < initial then final / initial - 1 else 0

/-- The highest value so far, and the deepest fall from it as a fraction. -/
structure Drawdown (α : Type) where
  peak : α
  deepest : α

def Drawdown.step (state : Drawdown α) (point : EquityPoint α) : Drawdown α :=
  if state.peak < point.equity then { state with peak := point.equity }
  else if 0 < state.peak then
    { state with deepest := larger state.deepest ((state.peak - point.equity) / state.peak) }
  else state

/-- The deepest fall from a peak.  The first peak is the initial value. -/
def maxDrawdownOf (curve : List (EquityPoint α)) (initial : α) : α :=
  (curve.foldl Drawdown.step ⟨initial, 0⟩).deepest

def totalHoldDays (trades : List (Trade α)) : Int :=
  trades.foldl (fun days trade => days + trade.holdDays) 0

def compute (trades : List (Trade α)) (curve : List (EquityPoint α)) (initial : α) :
    Statistics α :=
  let wins := (trades.filter (·.isWin)).map (·.profit)
  let losses := (trades.filter (·.isLoss)).map (·.profit)
  let gained := Arithmetic.total wins
  let lost := Arithmetic.total losses
  { totalReturn := totalReturnOf curve initial
    maxDrawdown := maxDrawdownOf curve initial
    tradeCount := trades.length
    winRate := mean (Arithmetic.ofNat wins.length) trades.length
    averageGain := mean gained wins.length
    averageLoss := mean lost losses.length
    profitFactor :=
      if 0 < losses.length ∧ lost < 0 then some (gained / Arithmetic.abs lost) else none
    averageHoldDays :=
      mean (Arithmetic.ofInt (totalHoldDays trades)) trades.length
    largestWin := wins.foldl larger 0
    largestLoss := losses.foldl smaller 0 }

end Statistics

end DailySignals
