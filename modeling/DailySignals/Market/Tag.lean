import DailySignals.Text.Blank
import DailySignals.Text.Case

/-!
# Tags

A snapshot carries tags from a fixed list.  Any other name can be written in a
condition and is kept as it is, but no snapshot counts as carrying it.
-/

set_option autoImplicit false

namespace DailySignals

inductive Tag where
  | shortTermStrong
  | volumeSurge
  | nearHigh
  | nearLow
  | highVolatility
  | lowVolatility
  | other (name : String)
  deriving DecidableEq, Repr

namespace Tag

def name : Tag → String
  | shortTermStrong => "short_term_strong"
  | volumeSurge => "volume_surge"
  | nearHigh => "near_high"
  | nearLow => "near_low"
  | highVolatility => "high_volatility"
  | lowVolatility => "low_volatility"
  | other name => name

def isKnown : Tag → Bool
  | other _ => false
  | _ => true

def known : List Tag :=
  [shortTermStrong, volumeSurge, nearHigh, nearLow, highVolatility, lowVolatility]

/-- The tag of that name, in any case of its letters and with blanks around it. -/
def ofName (name : String) : Tag :=
  let wanted := Text.trim name
  match known.find? fun tag => Text.sameName tag.name wanted with
  | some tag => tag
  | none => other wanted

end Tag

end DailySignals
