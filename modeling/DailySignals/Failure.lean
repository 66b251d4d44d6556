import DailySignals.Condition.Scanner
import DailySignals.Trading.Period
import DailySignals.Trading.Strategy

/-!
# What can go wrong

Every failure is a cause.  Its text and the exit code of a program that stops
on it follow from the cause.
-/

set_option autoImplicit false

namespace DailySignals

/-- A value that is well formed but cannot be used. -/
inductive Invalid (α : Type) where
  | condition (defect : Condition.Defect α)
  | strategy (defect : Strategy.Defect α)
  | risk (defect : RiskSettings.Defect)
  | period (defect : Period.Defect)
  | sizing (name : String)
  | fillMode (name : String)
  | environment (name : String)

namespace Invalid

def message {α : Type} [Printed α] : Invalid α → String
  | condition defect => defect.message
  | strategy defect => defect.message
  | risk defect => defect.message
  | period defect => defect.message
  | sizing name => "unsupported order size mode '" ++ name ++ "'"
  | fillMode name => "unsupported price mode '" ++ name ++ "'"
  | environment name =>
      "unknown environment '" ++ name ++ "' (expected paper, real or test)"

end Invalid

/-- Why a file could not be opened. -/
inductive FileFault where
  | missing
  | notDirectory
  | isDirectory
  deriving DecidableEq, Repr

namespace FileFault

/-- The wording of the operating system, with its code. -/
def text : FileFault → String
  | missing => "No such file or directory (os error 2)"
  | notDirectory => "Not a directory (os error 20)"
  | isDirectory => "Is a directory (os error 21)"

end FileFault

/-- What is wrong with stored data. -/
inductive DataFault where
  | unreadable (path : String) (fault : FileFault)
  | badRow (path : String) (row : Nat)
  | unwritable (path : String) (fault : FileFault)
  deriving DecidableEq, Repr

namespace DataFault

def message : DataFault → String
  | unreadable path fault => "failed to read " ++ path ++ ": " ++ fault.text
  | badRow path row => path ++ " row " ++ toString row ++ ": malformed record"
  | unwritable path fault => "failed to write " ++ path ++ ": " ++ fault.text

end DataFault

/-- A setting of a configuration that holds a text to be parsed. -/
structure TextSetting where
  key : String
  text : String
  deriving DecidableEq, Repr

inductive Failure (α : Type) where
  | data (fault : DataFault)
  | unreadableConfig (file reason : String)
  | missingKey (group key : String)
  | badValue (group key reason : String)
  /-- A text that cannot be parsed, and the setting it stands in, if any. -/
  | unparsed (fault : SyntaxFault) (setting : Option TextSetting)
  | invalid (cause : Invalid α)
  | params (fault : ParamsFault)
  | noData (symbol : String)

namespace Failure

variable {α : Type}

def message [Printed α] : Failure α → String
  | data fault => "data error: " ++ fault.message
  | unreadableConfig file reason => "config parse error in " ++ file ++ ": " ++ reason
  | missingKey group key => "missing config key [" ++ group ++ "] " ++ key
  | badValue group key reason =>
      "invalid config value [" ++ group ++ "] " ++ key ++ ": " ++ reason
  | unparsed fault _ => fault.text
  | invalid cause => "validation failed: " ++ cause.message
  | params fault => fault.message
  | noData symbol => "no analytics data for " ++ symbol

/-- The exit code: 2 for the configuration, 3 for data, 4 for what the
configuration says, 5 for a score that cannot be computed. -/
def exitCode : Failure α → Nat
  | unreadableConfig .. | missingKey .. | badValue .. => 2
  | data _ | noData _ => 3
  | unparsed .. | invalid _ => 4
  | params _ => 5

end Failure

end DailySignals
