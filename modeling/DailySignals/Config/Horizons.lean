import DailySignals.Config.Settings

/-!
# Lists of horizons
-/

set_option autoImplicit false

namespace DailySignals

namespace Config

/-- One horizon: a positive number of days. -/
def horizon (text : String) : Checked Nat :=
  match Numeral.count? Numeral.limit64 text with
  | some (days + 1) => .ok (days + 1)
  | _ =>
      .error (.badValue "backtest" "horizons"
        ("'" ++ text ++ "' is not a positive whole number of days"))

/-- Horizons with commas between; blank ones are passed over. -/
def horizons (text : String) : Checked (List Nat) :=
  let parts := (text.toList.splitOn ',').map fun part => String.ofList (Text.trimChars part)
  (parts.filter fun part => !part.isEmpty).mapM horizon

end Config

end DailySignals
