import DailySignals.Condition.Parser
import DailySignals.Config.Validate
import DailySignals.Scoring.Parser
import DailySignals.Screen.Page
import DailySignals.Screen.Preset
import DailySignals.Trading.Forward

/-!
# What a configuration describes

Data, periods, strategies and screens are made from settings.  Keys that are
absent leave the defaults as they are.
-/

set_option autoImplicit false

namespace DailySignals

namespace Config

/-- The directory that holds the data. -/
def dataPath (settings : Settings) : Checked String :=
  settings.require "data" "path"

def defaultEquity : Float := 10000

def period (settings : Settings) : Checked (Period Float) := do
  let start ← settings.date "backtest" "start_date"
  let finish ← settings.date "backtest" "end_date"
  let equity ← settings.float? "backtest" "initial_equity"
  return ⟨start, finish, equity.getD defaultEquity⟩

def studyHorizons (settings : Settings) : Checked (List Nat) :=
  match settings.text? "backtest" "horizons" with
  | some text => horizons text
  | none => .ok ForwardStudy.defaultHorizons

def risk (settings : Settings) : Checked (RiskSettings Float) := do
  let default : RiskSettings Float := .default
  let named {β : Type} (read : String → Except String β) (text : String) : Option β :=
    (read text).toOption
  let sizing ← settings.optional (named Sizing.ofName) "risk" "order_size_mode"
  let orderSize ← settings.float? "risk" "order_size_value"
  let fees ← settings.float? "risk" "fees_pct"
  let slippage ← settings.float? "risk" "slippage_pct"
  let stopLoss ← settings.float? "risk" "stop_loss_pct"
  let takeProfit ← settings.float? "risk" "take_profit_pct"
  let maxDailyLoss ← settings.float? "risk" "max_daily_loss_pct"
  let cooldownDays ← settings.count32? "risk" "cooldown_days"
  let minHoldDays ← settings.count32? "risk" "min_hold_days"
  let maxPositions ← settings.count32? "risk" "max_positions"
  let fillMode ← settings.optional (named FillMode.ofName) "risk" "price_mode"
  return {
    sizing := sizing.getD default.sizing
    orderSize := orderSize.getD default.orderSize
    fees := fees.getD default.fees
    slippage := slippage.getD default.slippage
    stopLoss := stopLoss
    takeProfit := takeProfit
    maxDailyLoss := maxDailyLoss
    cooldownDays := cooldownDays.getD default.cooldownDays
    minHoldDays := minHoldDays.getD default.minHoldDays
    maxPositions := maxPositions.getD default.maxPositions
    fillMode := fillMode.getD default.fillMode }

/-- What the text of a key parses to. -/
def parsed {β : Type} (parse : String → Except SyntaxFault β) (key text : String) : Checked β :=
  (parse text).mapError fun fault => .unparsed fault (some ⟨key, text⟩)

def conditions (settings : Settings) (key : String) : Checked (ConditionSet Float) := do
  parsed ConditionSet.parse key (← settings.require "strategy" key)

def rules (settings : Settings) (key : String) (side : RuleSide) :
    Checked (List (ScoringRule Float)) :=
  parsed (ScoringRule.parseList side) key ((settings.text? "strategy" key).getD "")

def entryThreshold (settings : Settings) : Checked Float := do
  match Numeral.float? (← settings.require "strategy" "entry_threshold") with
  | some threshold => return threshold
  | none => throw (.badValue "strategy" "entry_threshold" "entry_threshold must be a number")

def signals (settings : Settings) : Checked (Signals Float) := do
  match ← mode settings with
  | .scoring =>
      let entryRules ← rules settings "entry_rules" .entry
      let exitRules ← rules settings "exit_rules" .exit
      let entry ← entryThreshold settings
      let exit ← settings.float? "strategy" "exit_threshold"
      return .scoring ⟨entryRules, exitRules, entry, exit.getD 0⟩
  | .conditions =>
      let buy ← conditions settings "buy"
      let sell ← conditions settings "sell"
      return .conditions buy sell

/-- The strategy of a configuration, validated. -/
def strategy (settings : Settings) : Checked (Strategy Float) := do
  let name ← settings.require "strategy" "name"
  let symbol ← settings.require "strategy" "symbol"
  let signals ← signals settings
  let risk ← risk settings
  let strategy : Strategy Float := {
    name := name
    description := (settings.text? "strategy" "description").getD ""
    symbol := symbol
    signals := signals
    risk := risk }
  strategy.validate.mapError fun defect => .invalid (.strategy defect)
  return strategy

/-- A screen with all that it takes to run it. -/
structure ScreenRequest where
  label : String
  date : Date
  conditions : ConditionSet Float
  order : SortOrder
  page : PageRequest
  /-- Days in a row on which a row must have satisfied the conditions. -/
  streakDays : Nat

/-- The date of a screen: the given one, else the one of the configuration. -/
def screenDate (settings : Settings) (given : Option Date) : Checked Date := do
  match given with
  | some date => return date
  | none =>
      match ← settings.date? "screener" "date" with
      | some date => return date
      | none => throw (.missingKey "screener" "date")

/-- The order of a screen that is no preset. -/
def screenOrder (settings : Settings) : SortOrder :=
  match settings.text? "screener" "sort" with
  | some name => ⟨Field.ofName name, settings.boolOr "screener" "desc" true⟩
  | none => .default

def screen (settings : Settings) (givenDate : Option Date) (givenPreset : Option String) :
    Checked ScreenRequest := do
  let date ← screenDate settings givenDate
  let offset ← settings.count64? "screener" "offset"
  let limit ← settings.count64? "screener" "limit"
  let page : PageRequest := ⟨offset.getD 0, limit.getD 0⟩
  let streakDays := (← settings.count64? "screener" "streak_days").getD 1
  match givenPreset.or (settings.text? "screener" "preset") with
  | some id =>
      match Preset.find? id with
      | some preset =>
          return ⟨preset.name, date, preset.conditions, preset.order, page, streakDays⟩
      | none => throw (.badValue "screener" "preset" ("unknown preset '" ++ id ++ "'"))
  | none =>
      let conditions ← match settings.text? "screener" "conditions" with
        | some text => parsed ConditionSet.parse "conditions" text
        | none => .ok .empty
      return ⟨"custom", date, conditions, screenOrder settings, page, streakDays⟩

end Config

end DailySignals
