import DailySignals.Condition.Sequence
import DailySignals.Scoring.Rule

/-!
# Reading lists of rules

A rule is a name with a weight and, behind a comma, the object of its
parameters.  Rules are separated by commas, and an empty text has none.
-/

set_option autoImplicit false

namespace DailySignals

namespace ScoringRule

open Scanner

variable {α : Type} [Arithmetic α]

/-- The closing parenthesis, or a comma, the parameters and the parenthesis. -/
def readParamsText : Step String := fun text =>
  match closing? text with
  | some rest => .ok ("", rest)
  | none => do
      let (_, text) ← character ',' text
      let (params, text) ← object text
      let (_, text) ← character ')' text
      return (params, text)

def read (side : RuleSide) : Step (ScoringRule α) := fun text => do
  let (kind, text) ← identifier "condition type" text
  let (_, text) ← character '(' text
  let (weight, text) ← number text
  let (params, text) ← readParamsText text
  return (⟨kind, params, Arithmetic.ofDecimal weight, side⟩, text)

theorem readParamsText_shortens {text rest : List Char} {params : String}
    (success : readParamsText text = .ok (params, rest)) : rest.length < text.length := by
  unfold readParamsText at success
  split at success
  · next closed =>
    cases success
    exact closing_shortens closed
  · obtain ⟨⟨_, afterComma⟩, comma, success⟩ := bind_eq_ok.mp success
    obtain ⟨⟨object, afterObject⟩, braces, success⟩ := bind_eq_ok.mp success
    obtain ⟨⟨_, final⟩, closed, success⟩ := bind_eq_ok.mp success
    obtain rfl := rest_eq_of_pure success
    have := character_shortens comma
    have := object_shortens braces
    have := character_shortens closed
    omega

theorem read_shortens {side : RuleSide} {text rest : List Char} {rule : ScoringRule α}
    (success : read side text = .ok (rule, rest)) : rest.length < text.length := by
  obtain ⟨⟨kind, afterKind⟩, named, success⟩ := bind_eq_ok.mp success
  obtain ⟨⟨_, afterOpen⟩, opened, success⟩ := bind_eq_ok.mp success
  obtain ⟨⟨weight, afterWeight⟩, weighted, success⟩ := bind_eq_ok.mp success
  obtain ⟨⟨params, afterParams⟩, closed, success⟩ := bind_eq_ok.mp success
  obtain rfl := rest_eq_of_pure success
  have := identifier_shortens named
  have := character_shortens opened
  have := number_shortens weighted
  have := readParamsText_shortens closed
  omega

def item (side : RuleSide) : Item (ScoringRule α) :=
  ⟨read side, read_shortens⟩

/-- A whole text as a list of rules. -/
def readWhole (side : RuleSide) (text : List Char) :
    Except Refusal (List (ScoringRule α)) :=
  match finished? text with
  | some _ => .ok []
  | none => do
      let (rules, _) ← itemsUntil finished? (item side) text
      return rules

def parseList (side : RuleSide) (text : String) :
    Except SyntaxFault (List (ScoringRule α)) :=
  (readWhole side text.toList).mapError fun refusal => refusal.toFault text.toList

end ScoringRule

end DailySignals
