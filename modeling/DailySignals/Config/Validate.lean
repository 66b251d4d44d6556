import DailySignals.Config.Horizons

/-!
# Checking a configuration

The settings are checked as they stand, before anything is made of them, so
that a mistake is reported with its group and key.  The first mistake, in the
order of the checks, is the one reported.
-/

set_option autoImplicit false

namespace DailySignals

namespace Config

/-- Refuses a value that is there but not of the asked-for kind. -/
def checkNumber (settings : Settings) (group key reason : String) (fits : Float → Bool) :
    Checked Unit := do
  match ← settings.float? group key with
  | none => return ()
  | some value => if fits value then return () else throw (.badValue group key reason)

def checkData (settings : Settings) : Checked Unit := do
  let _ ← settings.require "data" "path"

def checkBacktest (settings : Settings) : Checked Unit := do
  let start ← settings.date "backtest" "start_date"
  let finish ← settings.date "backtest" "end_date"
  if finish < start then
    throw (.badValue "backtest" "start_date" "start_date must not be after end_date")
  checkNumber settings "backtest" "initial_equity" "initial_equity must be positive"
    RiskSettings.isSize
  match settings.text? "backtest" "horizons" with
  | none => return ()
  | some text => let _ ← horizons text

/-- A name that is there must be known. -/
def checkName {β : Type} (settings : Settings) (group key : String)
    (read : String → Except String β) (cause : String → Invalid Float) : Checked Unit :=
  match settings.text? group key with
  | none => .ok ()
  | some text =>
      match read text with
      | .ok _ => .ok ()
      | .error name =>
          .error (.badValue group key (Failure.invalid (cause name) : Failure Float).message)

def checkRisk (settings : Settings) : Checked Unit := do
  checkName settings "risk" "order_size_mode" Sizing.ofName .sizing
  checkName settings "risk" "price_mode" FillMode.ofName .fillMode
  checkNumber settings "risk" "order_size_value" "order_size_value must be positive"
    RiskSettings.isSize
  for key in ["fees_pct", "slippage_pct"] do
    checkNumber settings "risk" key (key ++ " must be non-negative") RiskSettings.isCost
  for key in ["stop_loss_pct", "take_profit_pct", "max_daily_loss_pct"] do
    checkNumber settings "risk" key (key ++ " must be positive") RiskSettings.isSize
  for key in ["cooldown_days", "min_hold_days"] do
    let _ ← settings.count32? "risk" key
  match ← settings.count32? "risk" "max_positions" with
  | some 0 => throw (.badValue "risk" "max_positions" "max_positions must be at least 1")
  | _ => return ()

/-- The two ways in which a strategy is described. -/
inductive Mode where
  | conditions
  | scoring
  deriving DecidableEq, Repr

/-- The mode of a strategy; conditions where none is named. -/
def mode (settings : Settings) : Checked Mode :=
  let name := Text.asciiLower ((settings.text? "strategy" "mode").getD "conditions")
  if name = "conditions" then .ok .conditions
  else if name = "scoring" then .ok .scoring
  else
    .error (.badValue "strategy" "mode"
      ("unknown mode '" ++ name ++ "' (expected conditions or scoring)"))

def checkThresholds (settings : Settings) : Checked Unit := do
  let text ← settings.require "strategy" "entry_threshold"
  if !(Numeral.float? text).any Float.isFinite then
    throw (.badValue "strategy" "entry_threshold" "entry_threshold must be a number")
  checkNumber settings "strategy" "exit_threshold" "exit_threshold must be a number"
    Float.isFinite

def checkStrategy (settings : Settings) : Checked Unit := do
  let _ ← settings.require "strategy" "name"
  let _ ← settings.require "strategy" "symbol"
  match ← mode settings with
  | .conditions =>
      let _ ← settings.require "strategy" "buy"
      let _ ← settings.require "strategy" "sell"
  | .scoring =>
      let _ ← settings.require "strategy" "entry_rules"
      checkThresholds settings
  checkRisk settings

def checkScreener (settings : Settings) : Checked Unit := do
  let _ ← settings.date? "screener" "date"
  let _ ← settings.count64? "screener" "offset"
  let _ ← settings.count64? "screener" "limit"
  let _ ← settings.count64? "screener" "streak_days"

end Config

end DailySignals
