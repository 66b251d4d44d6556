import DailySignals.Calendar.Text
import DailySignals.Failure
import DailySignals.Text.Lowercase

/-!
# Settings

A configuration answers with the text of a key in a group, if it has one.
Readers of settings treat a blank text as absent, and refuse a text that does
not say what the key asks for.
-/

set_option autoImplicit false

namespace DailySignals

structure Settings where
  value? : (group key : String) → Option String

/-- Results of reading a configuration. -/
abbrev Checked (β : Type) :=
  Except (Failure Float) β

namespace Settings

/-- The text of a key without blanks around it, if anything is left. -/
def text? (settings : Settings) (group key : String) : Option String :=
  ((settings.value? group key).map Text.trim).filter fun text => !text.isEmpty

def require (settings : Settings) (group key : String) : Checked String :=
  match settings.text? group key with
  | some text => .ok text
  | none => .error (.missingKey group key)

/-- A value that may be absent.  One that is there must be readable. -/
def optional {β : Type} (read : String → Option β) (settings : Settings) (group key : String) :
    Checked (Option β) :=
  match settings.text? group key with
  | none => .ok none
  | some text =>
      match read text with
      | some value => .ok (some value)
      | none => .error (.badValue group key ("cannot parse '" ++ text ++ "'"))

def float? : Settings → String → String → Checked (Option Float) :=
  optional Numeral.float?

def count32? : Settings → String → String → Checked (Option Nat) :=
  optional (Numeral.count? Numeral.limit32)

def count64? : Settings → String → String → Checked (Option Nat) :=
  optional (Numeral.count? Numeral.limit64)

/-- A date that must be there. -/
def date (settings : Settings) (group key : String) : Checked Date := do
  let text ← settings.require group key
  match Date.readStrict? text with
  | some date => return date
  | none =>
      throw (.badValue group key ("invalid " ++ key ++ " format, expected YYYY-MM-DD"))

def date? (settings : Settings) (group key : String) : Checked (Option Date) :=
  match settings.text? group key with
  | none => .ok none
  | some _ => (settings.date group key).map some

/-- The truth that a word stands for. -/
def truth? (text : String) : Option Bool :=
  let word := Text.lowercase (Text.trim text)
  if word = "true" ∨ word = "yes" ∨ word = "1" then some true
  else if word = "false" ∨ word = "no" ∨ word = "0" then some false
  else none

/-- A truth value; a text that is no truth value counts as absent. -/
def boolOr (settings : Settings) (group key : String) (absent : Bool) : Bool :=
  ((settings.value? group key).bind truth?).getD absent

/-- A whole number; a text that is none counts as absent. -/
def intOr (settings : Settings) (group key : String) (absent : Int) : Int :=
  ((settings.value? group key).bind Numeral.signed?).getD absent

/-- A number; a text that is none counts as absent. -/
def floatOr (settings : Settings) (group key : String) (absent : Float) : Float :=
  ((settings.value? group key).bind Numeral.float?).getD absent

end Settings

end DailySignals
