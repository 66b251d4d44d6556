import DailySignals.Condition.Basic

/-!
# The text of a condition

Conditions travel as text.  A set is always written with its logic, lists are
separated by a comma and a space, and empty lists of tags and symbols are left
out.
-/

set_option autoImplicit false

namespace DailySignals

/-- Texts with a comma and a space between. -/
def commaSeparated (items : List String) : String :=
  ", ".intercalate items

/-- A keyword with its arguments in parentheses. -/
def call (keyword arguments : String) : String :=
  keyword ++ "(" ++ arguments ++ ")"

/-- A keyword with its list, unless the list is empty. -/
def clause (keyword : String) (items : List String) : List String :=
  if items.isEmpty then [] else [call keyword (commaSeparated items)]

variable {α : Type} [Printed α]

namespace Comparison

def keyword : Comparison α → String
  | above _ => "GT"
  | atLeast _ => "GTE"
  | below _ => "LT"
  | atMost _ => "LTE"
  | between _ _ => "BETWEEN"

def operands : Comparison α → List α
  | above bound | atLeast bound | below bound | atMost bound => [bound]
  | between least greatest => [least, greatest]

end Comparison

namespace Condition

def text : Condition α → String
  | numeric field comparison =>
      call comparison.keyword
        (commaSeparated (field.name :: comparison.operands.map Printed.text))
  | category .market values => call "MARKET" (commaSeparated values)
  | category .industry values => call "INDUSTRY" (commaSeparated values)
  | category (.other name) values =>
      call "CATEGORY" (name ++ ", " ++ commaSeparated values)
  | tags anyOf allOf noneOf =>
      call "TAGS"
        (commaSeparated
          (clause "ANY" (anyOf.map Tag.name) ++ clause "ALL" (allOf.map Tag.name) ++
            clause "NONE" (noneOf.map Tag.name)))
  | symbols admitted refused =>
      call "SYMBOLS"
        (commaSeparated (clause "INCLUDE" admitted ++ clause "EXCLUDE" refused))

end Condition

namespace Logic

def keyword : Logic → String
  | all => "ALL"
  | any => "ANY"

end Logic

namespace ConditionSet

def text (set : ConditionSet α) : String :=
  call set.logic.keyword (commaSeparated (set.conditions.map Condition.text))

end ConditionSet

end DailySignals
