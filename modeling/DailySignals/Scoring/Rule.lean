import DailySignals.Arithmetic
import DailySignals.Condition.Text
import DailySignals.Json.Reader
import DailySignals.Json.Record

/-!
# Scoring rules

A rule names the kind of evidence it asks for, carries parameters as the text
of a JSON object, and has a weight.  Parameters without text are all absent.
-/

set_option autoImplicit false

namespace DailySignals

/-- Whether a rule belongs to the entry list or the exit list of a strategy. -/
inductive RuleSide where
  | entry
  | exit
  deriving DecidableEq, Repr

namespace RuleSide

def name : RuleSide → String
  | entry => "entry"
  | exit => "exit"

end RuleSide

structure ScoringRule (α : Type) where
  kind : String
  params : String
  weight : α
  side : RuleSide
  deriving DecidableEq, Repr

/-- What the built-in kinds of evidence understand. -/
structure RuleParams (α : Type) where
  days : Option α
  least : Option α
  average : Option α
  deriving DecidableEq, Repr

namespace RuleParams

variable {α : Type} [Arithmetic α]

def absent : RuleParams α :=
  ⟨none, none, none⟩

def ofJson? (json : Json) : Option (RuleParams α) := do
  match ← Json.fields? ["days", "min", "ma"] json with
  | [days, least, average] =>
      return {
        days := ← Json.optional Json.number? days
        least := ← Json.optional Json.number? least
        average := ← Json.optional Json.number? average }
  | _ => none

def parse? (text : String) : Option (RuleParams α) :=
  if Text.isAllBlank text then some absent
  else (Json.parse? text).bind ofJson?

end RuleParams

/-- A rule whose parameters cannot be read.  It spoils the whole score. -/
structure ParamsFault where
  kind : String
  deriving DecidableEq, Repr

namespace ParamsFault

def message (fault : ParamsFault) : String :=
  "invalid params for " ++ fault.kind ++ ": not an object of days, min and ma"

end ParamsFault

namespace ScoringRule

variable {α : Type}

def readParams [Arithmetic α] (rule : ScoringRule α) : Except ParamsFault (RuleParams α) :=
  match RuleParams.parse? rule.params with
  | some params => .ok params
  | none => .error ⟨rule.kind⟩

/-- The rule as it is written in a list of rules. -/
def text [Printed α] (rule : ScoringRule α) : String :=
  if Text.isAllBlank rule.params then call rule.kind (Printed.text rule.weight)
  else call rule.kind (commaSeparated [Printed.text rule.weight, rule.params])

end ScoringRule

end DailySignals
