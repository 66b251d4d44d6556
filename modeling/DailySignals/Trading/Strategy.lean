import DailySignals.Condition.Match
import DailySignals.Scoring.Score
import DailySignals.Trading.Risk

/-!
# Strategies

A strategy trades one symbol.  Its signals come from a buy and a sell set of
conditions, or from weighted entry and exit rules with thresholds.
-/

set_option autoImplicit false

namespace DailySignals

/-- Entry and exit rules with their thresholds. -/
structure ScoringSignals (α : Type) where
  entryRules : List (ScoringRule α)
  exitRules : List (ScoringRule α)
  entryThreshold : α
  exitThreshold : α

inductive Signals (α : Type) where
  | conditions (buy sell : ConditionSet α)
  | scoring (rules : ScoringSignals α)

structure Strategy (α : Type) where
  name : String
  description : String
  symbol : String
  signals : Signals α
  risk : RiskSettings α

namespace Strategy

/-- Why a strategy cannot be run. -/
inductive Defect (α : Type) where
  | nameMissing
  | symbolMissing
  | noBuyCondition
  | noSellCondition
  | buy (defect : Condition.Defect α)
  | sell (defect : Condition.Defect α)
  | noEntryRule
  | thresholdNotFinite
  | ruleWithoutKind
  | weightNotFinite (kind : String)
  | params (fault : ParamsFault)
  | risk (defect : RiskSettings.Defect)

namespace Defect

def message {α : Type} [Printed α] : Defect α → String
  | nameMissing => "strategy name is required"
  | symbolMissing => "strategy symbol is required"
  | noBuyCondition => "buy conditions require at least one condition"
  | noSellCondition => "sell conditions require at least one condition"
  | buy defect => "buy conditions: " ++ defect.message
  | sell defect => "sell conditions: " ++ defect.message
  | noEntryRule => "scoring strategy requires at least one entry rule"
  | thresholdNotFinite => "thresholds must be finite"
  | ruleWithoutKind => "rule is missing a condition type"
  | weightNotFinite kind => "rule " ++ kind ++ " has a non-finite weight"
  | params fault => fault.message
  | risk defect => defect.message

end Defect

/-- Stop-loss fraction of scoring strategies that set none. -/
def defaultStopLoss {α : Type} [Arithmetic α] : α := 0.02

/-- Take-profit fraction of scoring strategies that set none. -/
def defaultTakeProfit {α : Type} [Arithmetic α] : α := 0.05

variable {α : Type} [Arithmetic α]

def validateRule (rule : ScoringRule α) : Except (Defect α) Unit := do
  if Text.isAllBlank rule.kind then throw .ruleWithoutKind
  if !Arithmetic.isFinite rule.weight then throw (.weightNotFinite rule.kind)
  match rule.readParams with
  | .ok _ => pure ()
  | .error fault => throw (.params fault)

def validateSignals : Signals α → Except (Defect α) Unit
  | .conditions buy sell => do
      if buy.isEmpty then throw .noBuyCondition
      if sell.isEmpty then throw .noSellCondition
      buy.validate.mapError .buy
      sell.validate.mapError .sell
  | .scoring rules => do
      if rules.entryRules.isEmpty then throw .noEntryRule
      if !Arithmetic.isFinite rules.entryThreshold || !Arithmetic.isFinite rules.exitThreshold then
        throw .thresholdNotFinite
      (rules.entryRules ++ rules.exitRules).forM validateRule

def validate (strategy : Strategy α) : Except (Defect α) Unit := do
  if Text.isAllBlank strategy.name then throw .nameMissing
  if Text.isAllBlank strategy.symbol then throw .symbolMissing
  validateSignals strategy.signals
  strategy.risk.validate.mapError .risk

/-- Whether the strategy would buy on a snapshot's day. -/
def entrySignal (strategy : Strategy α) (registry : Registry α) (snapshot : Snapshot α) :
    Except ParamsFault Bool :=
  match strategy.signals with
  | .conditions buy _ => .ok (buy.holds .nothing snapshot)
  | .scoring rules => registry.triggersEntry rules.entryRules rules.entryThreshold snapshot

/-- The stop-loss and take-profit fractions in force.  Scoring strategies
always have both. -/
def hardStops (strategy : Strategy α) : Option α × Option α :=
  match strategy.signals with
  | .conditions _ _ => (strategy.risk.stopLoss, strategy.risk.takeProfit)
  | .scoring _ =>
      (some (strategy.risk.stopLoss.getD defaultStopLoss),
        some (strategy.risk.takeProfit.getD defaultTakeProfit))

end Strategy

end DailySignals
