import DailySignals.Condition.Basic
import DailySignals.Condition.Sequence

/-!
# Reading conditions

A set is `ALL(…)` or `ANY(…)` with any number of conditions, or one bare
condition.  Keywords are written in capitals; blanks may stand between tokens.
-/

set_option autoImplicit false

namespace DailySignals

namespace Scanner

/-- The first of several keywords that stands at the head of a text, with what
it selects and what follows it. -/
def select? {β : Type} (choices : List (String × β)) (text : List Char) :
    Option (β × List Char) :=
  choices.findSome? fun (word, choice) => (keyword? word text).map fun rest => (choice, rest)

theorem select_length {β : Type} {choices : List (String × β)} {text rest : List Char}
    {choice : β} (found : select? choices text = some (choice, rest)) :
    (∃ word, (word, choice) ∈ choices) ∧ rest.length ≤ text.length := by
  obtain ⟨⟨word, chosen⟩, member, h⟩ := List.exists_of_findSome?_eq_some found
  simp only [Option.map_eq_some_iff, Prod.mk.injEq] at h
  obtain ⟨after, read, rfl, rfl⟩ := h
  have parts := keyword_length read
  exact ⟨⟨word, member⟩, by omega⟩

/-- A choice by keyword, then its list in parentheses. -/
def labelled {ρ β : Type} (what : String) (labels : List (String × ρ)) (item : Item β) :
    Step (ρ × List β) := fun text => do
  let text := Text.skipBlanks text
  match select? labels text with
  | none => throw ⟨.word what, text⟩
  | some (label, rest) =>
      let (_, rest) ← character '(' rest
      let (values, rest) ← itemsInParentheses item rest
      return ((label, values), rest)

theorem labelled_shortens {ρ β : Type} {what : String} {labels : List (String × ρ)}
    {item : Item β} {text rest : List Char} {value : ρ × List β}
    (success : labelled what labels item text = .ok (value, rest)) :
    rest.length < text.length := by
  have skipped := skipBlanks_length text
  unfold labelled at success
  simp only at success
  split at success
  · cases success
  · next label afterLabel chosen =>
    obtain ⟨⟨_, afterOpen⟩, opened, success⟩ := bind_eq_ok.mp success
    obtain ⟨⟨values, afterList⟩, listed, success⟩ := bind_eq_ok.mp success
    obtain rfl := rest_eq_of_pure success
    have first := (select_length chosen).2
    have second := character_shortens opened
    have third := itemsInParentheses_shortens listed
    dsimp only at *
    omega

/-- All values listed under one label, in the order of their clauses. -/
def listedUnder {ρ β : Type} [DecidableEq ρ] (label : ρ) (clauses : List (ρ × List β)) :
    List β :=
  clauses.flatMap fun (other, values) => if other = label then values else []

def valueItem : Item String :=
  ⟨value, value_shortens⟩

def tag : Step Tag := fun text => do
  let (name, rest) ← identifier "tag" text
  return (Tag.ofName name, rest)

def tagItem : Item Tag where
  read := tag
  shortens := by
    intro text found rest success
    obtain ⟨⟨name, afterName⟩, named, success⟩ := bind_eq_ok.mp success
    obtain rfl := rest_eq_of_pure success
    exact identifier_shortens named

/-- The three ways in which a condition uses a list of tags. -/
inductive TagUse where
  | anyOf
  | allOf
  | noneOf
  deriving DecidableEq, Repr

def tagClause : Item (TagUse × List Tag) where
  read := labelled "ANY, ALL or NONE"
    [("ANY", .anyOf), ("ALL", .allOf), ("NONE", .noneOf)] tagItem
  shortens := labelled_shortens

/-- The two ways in which a condition uses a list of symbols. -/
inductive SymbolUse where
  | admitted
  | refused
  deriving DecidableEq, Repr

def symbolClause : Item (SymbolUse × List String) where
  read := labelled "INCLUDE or EXCLUDE"
    [("INCLUDE", .admitted), ("EXCLUDE", .refused)] valueItem
  shortens := labelled_shortens

end Scanner

namespace Condition

open Scanner

variable {α : Type} [Arithmetic α]

def readField : Step Field := fun text => do
  let (name, rest) ← identifier "field name" text
  return (Field.ofName name, rest)

def readBound : Step α := fun text => do
  let (decimal, rest) ← number text
  return (Arithmetic.ofDecimal decimal, rest)

/-- The arguments of a comparison with one bound. -/
def readComparison (make : α → Comparison α) : Step (Condition α) := fun text => do
  let (_, text) ← character '(' text
  let (field, text) ← readField text
  let (_, text) ← character ',' text
  let (bound, text) ← readBound text
  let (_, text) ← character ')' text
  return (.numeric field (make bound), text)

def readBetween : Step (Condition α) := fun text => do
  let (_, text) ← character '(' text
  let (field, text) ← readField text
  let (_, text) ← character ',' text
  let (least, text) ← readBound text
  let (_, text) ← character ',' text
  let (greatest, text) ← readBound text
  let (_, text) ← character ')' text
  return (.numeric field (.between least greatest), text)

/-- The values admitted in a category that the keyword names. -/
def readValues (kind : Category) : Step (Condition α) := fun text => do
  let (_, text) ← character '(' text
  let (values, text) ← itemsInParentheses valueItem text
  return (.category kind values, text)

def readCategory : Step (Condition α) := fun text => do
  let (_, text) ← character '(' text
  let (name, text) ← identifier "category field" text
  let (_, text) ← character ',' text
  let (values, text) ← itemsInParentheses valueItem text
  return (.category (Category.ofName name) values, text)

def readTags : Step (Condition α) := fun text => do
  let (_, text) ← character '(' text
  let (clauses, text) ← itemsInParentheses tagClause text
  return (.tags (listedUnder .anyOf clauses) (listedUnder .allOf clauses)
    (listedUnder .noneOf clauses), text)

def readSymbols : Step (Condition α) := fun text => do
  let (_, text) ← character '(' text
  let (clauses, text) ← itemsInParentheses symbolClause text
  return (.symbols (listedUnder .admitted clauses) (listedUnder .refused clauses), text)

/-- The keywords of conditions, with the reader of what follows each. -/
def forms : List (String × Step (Condition α)) :=
  [("GTE", readComparison .atLeast), ("GT", readComparison .above),
    ("LTE", readComparison .atMost), ("LT", readComparison .below),
    ("BETWEEN", readBetween), ("MARKET", readValues .market),
    ("INDUSTRY", readValues .industry), ("CATEGORY", readCategory),
    ("TAGS", readTags), ("SYMBOLS", readSymbols)]

def read : Step (Condition α) := fun text =>
  let text := Text.skipBlanks text
  match select? forms text with
  | some (form, rest) => form rest
  | none => .error ⟨.word "condition", text⟩

theorem form_shortens {word : String} {form : Step (Condition α)}
    (member : (word, form) ∈ forms (α := α)) {text rest : List Char} {condition : Condition α}
    (success : form text = .ok (condition, rest)) : rest.length < text.length := by
  have opening : ∀ {β : Type} {next : Unit × List Char → Except Refusal β} {result : β},
      (character '(' text >>= next) = .ok result →
        ∃ after, after.length < text.length ∧ next ((), after) = .ok result := by
    intro β next result h
    obtain ⟨⟨_, after⟩, opened, h⟩ := bind_eq_ok.mp h
    exact ⟨after, character_shortens opened, h⟩
  have field_shortens : ∀ {text rest : List Char} {field : Field},
      readField text = .ok (field, rest) → rest.length < text.length := by
    intro text rest field h
    obtain ⟨⟨name, after⟩, named, h⟩ := bind_eq_ok.mp h
    obtain rfl := rest_eq_of_pure h
    exact identifier_shortens named
  have bound_shortens : ∀ {text rest : List Char} {bound : α},
      readBound text = .ok (bound, rest) → rest.length < text.length := by
    intro text rest bound h
    obtain ⟨⟨decimal, after⟩, numbered, h⟩ := bind_eq_ok.mp h
    obtain rfl := rest_eq_of_pure h
    exact number_shortens numbered
  have comparison : ∀ {make : α → Comparison α},
      readComparison make text = .ok (condition, rest) → rest.length < text.length := by
    intro make h
    obtain ⟨after, shorter, h⟩ := opening h
    obtain ⟨⟨field, afterField⟩, named, h⟩ := bind_eq_ok.mp h
    obtain ⟨⟨_, afterComma⟩, comma, h⟩ := bind_eq_ok.mp h
    obtain ⟨⟨bound, afterBound⟩, bounded, h⟩ := bind_eq_ok.mp h
    obtain ⟨⟨_, final⟩, closed, h⟩ := bind_eq_ok.mp h
    obtain rfl := rest_eq_of_pure h
    have := field_shortens named
    have := character_shortens comma
    have := bound_shortens bounded
    have := character_shortens closed
    omega
  have values : ∀ {kind : Category},
      readValues kind text = .ok (condition, rest) → rest.length < text.length := by
    intro kind h
    obtain ⟨after, shorter, h⟩ := opening h
    obtain ⟨⟨values, final⟩, listed, h⟩ := bind_eq_ok.mp h
    obtain rfl := rest_eq_of_pure h
    have := itemsInParentheses_shortens listed
    omega
  simp only [forms, List.mem_cons, Prod.mk.injEq, List.not_mem_nil, or_false] at member
  rcases member with ⟨_, rfl⟩ | ⟨_, rfl⟩ | ⟨_, rfl⟩ | ⟨_, rfl⟩ | ⟨_, rfl⟩ | ⟨_, rfl⟩ | ⟨_, rfl⟩ |
    ⟨_, rfl⟩ | ⟨_, rfl⟩ | ⟨_, rfl⟩
  · exact comparison success
  · exact comparison success
  · exact comparison success
  · exact comparison success
  · obtain ⟨after, shorter, h⟩ := opening success
    obtain ⟨⟨field, afterField⟩, named, h⟩ := bind_eq_ok.mp h
    obtain ⟨⟨_, afterComma⟩, comma, h⟩ := bind_eq_ok.mp h
    obtain ⟨⟨least, afterLeast⟩, least_read, h⟩ := bind_eq_ok.mp h
    obtain ⟨⟨_, afterSecond⟩, second, h⟩ := bind_eq_ok.mp h
    obtain ⟨⟨greatest, afterGreatest⟩, greatest_read, h⟩ := bind_eq_ok.mp h
    obtain ⟨⟨_, final⟩, closed, h⟩ := bind_eq_ok.mp h
    obtain rfl := rest_eq_of_pure h
    have := field_shortens named
    have := character_shortens comma
    have := bound_shortens least_read
    have := character_shortens second
    have := bound_shortens greatest_read
    have := character_shortens closed
    omega
  · exact values success
  · exact values success
  · obtain ⟨after, shorter, h⟩ := opening success
    obtain ⟨⟨name, afterName⟩, named, h⟩ := bind_eq_ok.mp h
    obtain ⟨⟨_, afterComma⟩, comma, h⟩ := bind_eq_ok.mp h
    obtain ⟨⟨values, final⟩, listed, h⟩ := bind_eq_ok.mp h
    obtain rfl := rest_eq_of_pure h
    have := identifier_shortens named
    have := character_shortens comma
    have := itemsInParentheses_shortens listed
    omega
  · obtain ⟨after, shorter, h⟩ := opening success
    obtain ⟨⟨clauses, final⟩, listed, h⟩ := bind_eq_ok.mp h
    obtain rfl := rest_eq_of_pure h
    have := itemsInParentheses_shortens listed
    omega
  · obtain ⟨after, shorter, h⟩ := opening success
    obtain ⟨⟨clauses, final⟩, listed, h⟩ := bind_eq_ok.mp h
    obtain rfl := rest_eq_of_pure h
    have := itemsInParentheses_shortens listed
    omega

theorem read_shortens {text rest : List Char} {condition : Condition α}
    (success : read text = .ok (condition, rest)) : rest.length < text.length := by
  have skipped := skipBlanks_length text
  unfold read at success
  simp only at success
  split at success
  · next form afterWord chosen =>
    obtain ⟨⟨word, member⟩, shorter⟩ := select_length chosen
    have := form_shortens member success
    omega
  · cases success

def item : Item (Condition α) :=
  ⟨read, read_shortens⟩

end Condition

namespace ConditionSet

open Scanner

variable {α : Type} [Arithmetic α]

/-- The conditions in parentheses behind the keyword of a logic. -/
def readGroup (logic : Logic) : Step (ConditionSet α) := fun text => do
  let (_, text) ← character '(' text
  match closing? text with
  | some rest => return (⟨logic, []⟩, rest)
  | none =>
      let (conditions, rest) ← itemsInParentheses Condition.item text
      return (⟨logic, conditions⟩, rest)

def logics : List (String × Logic) :=
  [("ALL", .all), ("ANY", .any)]

/-- A set at the head of a text. -/
def read : Step (ConditionSet α) := fun text => do
  let text := Text.skipBlanks text
  match select? logics text with
  | some (logic, rest) => readGroup logic rest
  | none =>
      let (condition, rest) ← Condition.read text
      return (all [condition], rest)

/-- A whole text as a set. -/
def readWhole (text : List Char) : Except Refusal (ConditionSet α) := do
  let (set, rest) ← read text
  match finished? rest with
  | some _ => return set
  | none => throw ⟨.endOfText, Text.skipBlanks rest⟩

def parse (text : String) : Except SyntaxFault (ConditionSet α) :=
  (readWhole text.toList).mapError fun refusal => refusal.toFault text.toList

end ConditionSet

end DailySignals
