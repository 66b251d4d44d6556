import DailySignals.Config.Build
import DailySignals.Proofs.Validation

/-!
# Risk settings, checked and built

Settings are read twice: once to check them, where a value that is absent passes,
and once to build from them, where it is replaced by its default.  The defaults
pass their own checks, so both come to the same: the risk settings that are
checked are those that can be built and are admissible.
-/

set_option autoImplicit false

namespace DailySignals

namespace Settings

variable {settings : Settings} {group key : String}

theorem require_eq_ok {text : String} :
    settings.require group key = .ok text ↔ settings.text? group key = some text := by
  unfold require
  cases settings.text? group key with
  | none => simp
  | some found => simp

theorem date?_eq_none : settings.date? group key = .ok none ↔ settings.text? group key = none := by
  unfold date?
  cases settings.text? group key with
  | none => simp
  | some text =>
      cases settings.date group key with
      | error fault => simp [Except.map]
      | ok date => simp [Except.map]

end Settings

namespace Config

variable {settings : Settings} {group key : String}

/-! ## One key -/

/-- Checked as far as it is there, or with a default that fits. -/
theorem getD_fits {β : Type} {fits : β → Bool} {absent : β} (usable : fits absent = true)
    {value : Option β} : fits (value.getD absent) = true ↔ value.all fits = true := by
  cases value with
  | none => simp [usable]
  | some found => rfl

theorem checkNumber_eq_ok {reason : String} {fits : Float → Bool} :
    checkNumber settings group key reason fits = .ok () ↔
      ∃ value, settings.float? group key = .ok value ∧ value.all fits = true := by
  unfold checkNumber
  rw [bind_eq_ok]
  refine exists_congr fun value => and_congr_right fun _ => ?_
  cases value with
  | none => simp
  | some number => exact admission_eq_ok

theorem checkName_eq_ok {β : Type} {read : String → Except String β}
    {cause : String → Invalid Float} :
    checkName settings group key read cause = .ok () ↔
      ∃ value, settings.optional (fun text => (read text).toOption) group key = .ok value := by
  unfold checkName Settings.optional
  cases settings.text? group key with
  | none => simp
  | some text =>
      cases known : read text with
      | ok value => simp [known, Except.toOption]
      | error name => simp [known, Except.toOption]

theorem checkPositions_eq_ok {count : Option Nat} {fault : Failure Float} :
    (match count with
      | some 0 => throw fault
      | _ => pure () : Checked Unit) = .ok () ↔ count.all (decide <| 1 ≤ ·) = true := by
  cases count with
  | none => simp
  | some count =>
      cases count with
      | zero => simp
      | succ count => simp

/-! ## The group of risk settings -/

/-- What the keys of the risk settings say, as far as they are there. -/
structure RiskKeys where
  sizing : Option Sizing
  orderSize : Option Float
  fees : Option Float
  slippage : Option Float
  stopLoss : Option Float
  takeProfit : Option Float
  maxDailyLoss : Option Float
  cooldownDays : Option Nat
  minHoldDays : Option Nat
  maxPositions : Option Nat
  fillMode : Option FillMode

namespace RiskKeys

/-- All keys can be read, and say this. -/
structure ReadFrom (settings : Settings) (keys : RiskKeys) : Prop where
  sizing : settings.optional (fun text => (Sizing.ofName text).toOption) "risk"
    "order_size_mode" = .ok keys.sizing
  orderSize : settings.float? "risk" "order_size_value" = .ok keys.orderSize
  fees : settings.float? "risk" "fees_pct" = .ok keys.fees
  slippage : settings.float? "risk" "slippage_pct" = .ok keys.slippage
  stopLoss : settings.float? "risk" "stop_loss_pct" = .ok keys.stopLoss
  takeProfit : settings.float? "risk" "take_profit_pct" = .ok keys.takeProfit
  maxDailyLoss : settings.float? "risk" "max_daily_loss_pct" = .ok keys.maxDailyLoss
  cooldownDays : settings.count32? "risk" "cooldown_days" = .ok keys.cooldownDays
  minHoldDays : settings.count32? "risk" "min_hold_days" = .ok keys.minHoldDays
  maxPositions : settings.count32? "risk" "max_positions" = .ok keys.maxPositions
  fillMode : settings.optional (fun text => (FillMode.ofName text).toOption) "risk"
    "price_mode" = .ok keys.fillMode

/-- Defaults stand in for absent keys. -/
def filled (keys : RiskKeys) : RiskSettings Float :=
  let default : RiskSettings Float := .default
  { sizing := keys.sizing.getD default.sizing
    orderSize := keys.orderSize.getD default.orderSize
    fees := keys.fees.getD default.fees
    slippage := keys.slippage.getD default.slippage
    stopLoss := keys.stopLoss
    takeProfit := keys.takeProfit
    maxDailyLoss := keys.maxDailyLoss
    cooldownDays := keys.cooldownDays.getD default.cooldownDays
    minHoldDays := keys.minHoldDays.getD default.minHoldDays
    maxPositions := keys.maxPositions.getD default.maxPositions
    fillMode := keys.fillMode.getD default.fillMode }

/-- What is there passes its check. -/
structure Fits (keys : RiskKeys) : Prop where
  orderSize : keys.orderSize.all RiskSettings.isSize = true
  fees : keys.fees.all RiskSettings.isCost = true
  slippage : keys.slippage.all RiskSettings.isCost = true
  stopLoss : keys.stopLoss.all RiskSettings.isSize = true
  takeProfit : keys.takeProfit.all RiskSettings.isSize = true
  maxDailyLoss : keys.maxDailyLoss.all RiskSettings.isSize = true
  maxPositions : keys.maxPositions.all (decide <| 1 ≤ ·) = true

theorem default_admissible : (RiskSettings.default : RiskSettings Float).Admissible where
  orderSize := by decide +kernel
  fees := by decide +kernel
  slippage := by decide +kernel
  stopLoss := rfl
  takeProfit := rfl
  maxDailyLoss := rfl
  maxPositions := Nat.le_refl 1

theorem filled_admissible {keys : RiskKeys} : keys.filled.Admissible ↔ keys.Fits := by
  have usable := default_admissible
  have positions := @getD_fits _ (decide <| 1 ≤ ·) _
    (decide_eq_true usable.maxPositions) keys.maxPositions
  constructor
  · intro admissible
    exact ⟨(getD_fits usable.orderSize).mp admissible.orderSize,
      (getD_fits usable.fees).mp admissible.fees,
      (getD_fits usable.slippage).mp admissible.slippage, admissible.stopLoss,
      admissible.takeProfit, admissible.maxDailyLoss,
      positions.mp (decide_eq_true admissible.maxPositions)⟩
  · intro fits
    exact ⟨(getD_fits usable.orderSize).mpr fits.orderSize,
      (getD_fits usable.fees).mpr fits.fees,
      (getD_fits usable.slippage).mpr fits.slippage, fits.stopLoss, fits.takeProfit,
      fits.maxDailyLoss, of_decide_eq_true (positions.mpr fits.maxPositions)⟩

end RiskKeys

theorem risk_eq_ok {built : RiskSettings Float} :
    risk settings = .ok built ↔
      ∃ keys : RiskKeys, keys.ReadFrom settings ∧ keys.filled = built := by
  constructor
  · intro found
    unfold risk at found
    simp only [bind_eq_ok, pure_eq_ok] at found
    obtain ⟨sizing, readSizing, orderSize, readOrderSize, fees, readFees, slippage, readSlippage,
      stopLoss, readStopLoss, takeProfit, readTakeProfit, maxDailyLoss, readMaxDailyLoss,
      cooldownDays, readCooldownDays, minHoldDays, readMinHoldDays, maxPositions,
      readMaxPositions, fillMode, readFillMode, whole⟩ := found
    exact ⟨⟨sizing, orderSize, fees, slippage, stopLoss, takeProfit, maxDailyLoss, cooldownDays,
      minHoldDays, maxPositions, fillMode⟩, ⟨readSizing, readOrderSize, readFees, readSlippage,
      readStopLoss, readTakeProfit, readMaxDailyLoss, readCooldownDays, readMinHoldDays,
      readMaxPositions, readFillMode⟩, whole⟩
  · rintro ⟨keys, read, rfl⟩
    rw [risk, bind_of_ok read.sizing, bind_of_ok read.orderSize, bind_of_ok read.fees,
      bind_of_ok read.slippage, bind_of_ok read.stopLoss, bind_of_ok read.takeProfit,
      bind_of_ok read.maxDailyLoss, bind_of_ok read.cooldownDays, bind_of_ok read.minHoldDays,
      bind_of_ok read.maxPositions, bind_of_ok read.fillMode]
    rfl

theorem checkRisk_eq_ok :
    checkRisk settings = .ok () ↔ ∃ keys : RiskKeys, keys.ReadFrom settings ∧ keys.Fits := by
  unfold checkRisk
  rw [check_bind_eq_ok, check_bind_eq_ok, check_bind_eq_ok, check_bind_eq_ok, check_bind_eq_ok,
    check_bind_eq_ok, bind_eq_ok, forIn_eq_ok, forIn_eq_ok, forIn_eq_ok, checkName_eq_ok,
    checkName_eq_ok]
  -- the loops check the keys of one kind, which `RiskKeys` tells apart
  simp only [List.forall_mem_cons, List.not_mem_nil, false_implies, implies_true, and_true,
    exists_eq_ok_unit, checkNumber_eq_ok]
  constructor
  · rintro ⟨⟨sizing, readSizing⟩, ⟨fillMode, readFillMode⟩, ⟨orderSize, readOrderSize, sizeFits⟩,
      ⟨⟨fees, readFees, feesFit⟩, slippage, readSlippage, slippageFits⟩,
      ⟨⟨stopLoss, readStopLoss, stopLossFits⟩, ⟨takeProfit, readTakeProfit, takeProfitFits⟩,
        maxDailyLoss, readMaxDailyLoss, maxDailyLossFits⟩,
      ⟨⟨cooldownDays, readCooldownDays⟩, minHoldDays, readMinHoldDays⟩,
      maxPositions, readMaxPositions, some_positions⟩
    exact ⟨⟨sizing, orderSize, fees, slippage, stopLoss, takeProfit, maxDailyLoss, cooldownDays,
      minHoldDays, maxPositions, fillMode⟩, ⟨readSizing, readOrderSize, readFees, readSlippage,
      readStopLoss, readTakeProfit, readMaxDailyLoss, readCooldownDays, readMinHoldDays,
      readMaxPositions, readFillMode⟩, ⟨sizeFits, feesFit, slippageFits, stopLossFits,
      takeProfitFits, maxDailyLossFits, checkPositions_eq_ok.mp some_positions⟩⟩
  · rintro ⟨keys, read, fits⟩
    exact ⟨⟨_, read.sizing⟩, ⟨_, read.fillMode⟩, ⟨_, read.orderSize, fits.orderSize⟩,
      ⟨⟨_, read.fees, fits.fees⟩, _, read.slippage, fits.slippage⟩,
      ⟨⟨_, read.stopLoss, fits.stopLoss⟩, ⟨_, read.takeProfit, fits.takeProfit⟩,
        _, read.maxDailyLoss, fits.maxDailyLoss⟩,
      ⟨⟨_, read.cooldownDays⟩, _, read.minHoldDays⟩,
      _, read.maxPositions, checkPositions_eq_ok.mpr fits.maxPositions⟩

/-- Checking does not look at the sizing and the size of an order together, which
validation does. -/
theorem checkRisk_iff_risk :
    checkRisk settings = .ok () ↔ ∃ built, risk settings = .ok built ∧ built.Admissible := by
  simp only [checkRisk_eq_ok, risk_eq_ok]
  constructor
  · rintro ⟨keys, read, fits⟩
    exact ⟨_, ⟨keys, read, rfl⟩, RiskKeys.filled_admissible.mpr fits⟩
  · rintro ⟨_, ⟨keys, read, rfl⟩, admissible⟩
    exact ⟨keys, read, RiskKeys.filled_admissible.mp admissible⟩

end Config

end DailySignals
