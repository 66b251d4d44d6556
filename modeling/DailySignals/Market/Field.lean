import DailySignals.Text.Blank
import DailySignals.Text.Case

/-!
# Numeric fields

The numbers of a snapshot that conditions and sort orders address by name.  A
name outside the list is kept, and a field of such a name never has a value.
-/

set_option autoImplicit false

namespace DailySignals

inductive Field where
  | close
  | change
  | changeRate
  | return5
  | return20
  | return60
  | ma5
  | ma10
  | ma20
  | ma60
  | deviation20
  | high20
  | low20
  | rangePos20
  | volumeMultiple
  | amplitude
  | avgAmplitude20
  | score
  | other (name : String)
  deriving DecidableEq, Repr

namespace Field

def name : Field → String
  | close => "close"
  | change => "change"
  | changeRate => "change_rate"
  | return5 => "return5"
  | return20 => "return20"
  | return60 => "return60"
  | ma5 => "ma5"
  | ma10 => "ma10"
  | ma20 => "ma20"
  | ma60 => "ma60"
  | deviation20 => "deviation20"
  | high20 => "high20"
  | low20 => "low20"
  | rangePos20 => "range_pos20"
  | volumeMultiple => "volume_multiple"
  | amplitude => "amplitude"
  | avgAmplitude20 => "avg_amplitude20"
  | score => "score"
  | other name => name

def isKnown : Field → Bool
  | other _ => false
  | _ => true

def known : List Field :=
  [close, change, changeRate, return5, return20, return60, ma5, ma10, ma20, ma60,
    deviation20, high20, low20, rangePos20, volumeMultiple, amplitude,
    avgAmplitude20, score]

/-- The field of that name, in any case of its letters and with blanks around it. -/
def ofName (name : String) : Field :=
  let wanted := Text.trim name
  match known.find? fun field => field.name == Text.asciiLower wanted with
  | some field => field
  | none => other wanted

end Field

end DailySignals
