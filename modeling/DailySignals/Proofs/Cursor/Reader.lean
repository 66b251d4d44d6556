import DailySignals.Proofs.Cursor.Literal
import DailySignals.Proofs.Cursor.Sequence
import DailySignals.Scoring.Parser

/-!
# Conditions and rules at a position

The keyword of a condition is seen first, to choose the form, and taken then.  From the
laws of the tokens it follows form by form that a text is read as it is from its head,
with the same value or the same fault.  So no text brings the position off a boundary,
lets a loop stand still, or comes to any other mishap.
-/

set_option autoImplicit false

namespace DailySignals

namespace Cursor

open Scanner (select? keyword?)

variable {text unread rest : List Char}

/-! ## Conditions -/

def field : Cursor Field := do
  return Field.ofName (← identifier "field name")

def comparison (make : Float → Comparison Float) : Cursor (Condition Float) := do
  expectChar '('
  let field ← field
  expectChar ','
  let bound ← number
  expectChar ')'
  return .numeric field (make bound)

def between : Cursor (Condition Float) := do
  expectChar '('
  let field ← field
  expectChar ','
  let least ← number
  expectChar ','
  let greatest ← number
  expectChar ')'
  return .numeric field (.between least greatest)

def valuesOf (kind : Category) : Cursor (Condition Float) := do
  expectChar '('
  return .category kind (← listUntil closeParen value)

def category : Cursor (Condition Float) := do
  expectChar '('
  let name ← identifier "category field"
  expectChar ','
  return .category (Category.ofName name) (← listUntil closeParen value)

def tag : Cursor Tag := do
  return Tag.ofName (← identifier "tag")

def tags : Cursor (Condition Float) := do
  expectChar '('
  let lists ← clauses (clause "ANY, ALL or NONE"
    [("ANY", Scanner.TagUse.anyOf), ("ALL", .allOf), ("NONE", .noneOf)] tag)
  return .tags (lists .anyOf) (lists .allOf) (lists .noneOf)

def symbols : Cursor (Condition Float) := do
  expectChar '('
  let lists ← clauses (clause "INCLUDE or EXCLUDE"
    [("INCLUDE", Scanner.SymbolUse.admitted), ("EXCLUDE", .refused)] value)
  return .symbols (lists .admitted) (lists .refused)

/-- The keywords of conditions in the order in which they are looked for. -/
def forms : List (String × Cursor (Condition Float)) :=
  [("GTE", comparison .atLeast), ("GT", comparison .above), ("LTE", comparison .atMost),
    ("LT", comparison .below), ("BETWEEN", between), ("MARKET", valuesOf .market),
    ("INDUSTRY", valuesOf .industry), ("CATEGORY", category), ("TAGS", tags),
    ("SYMBOLS", symbols)]

def condition : Cursor (Condition Float) := do
  skipBlanks
  match ← firstOf peekKeyword forms with
  | some (word, form) =>
      expectKeyword word
      form
  | none => refuse (.word "condition")

theorem realizes_field : Realizes field Condition.readField :=
  (realizes_identifier "field name").bind fun _ => realizes_pure _

theorem realizes_comparison (make : Float → Comparison Float) :
    Realizes (comparison make) (Condition.readComparison make) := by
  refine (realizes_expectChar '(').bind fun _ => ?_
  refine realizes_field.bind fun field => ?_
  refine (realizes_expectChar ',').bind fun _ => ?_
  refine realizes_number.bind fun bound => ?_
  refine (realizes_expectChar ')').bind fun _ => ?_
  exact realizes_pure (Condition.numeric field (make bound))

theorem realizes_between : Realizes between (Condition.readBetween (α := Float)) := by
  refine (realizes_expectChar '(').bind fun _ => ?_
  refine realizes_field.bind fun field => ?_
  refine (realizes_expectChar ',').bind fun _ => ?_
  refine realizes_number.bind fun least => ?_
  refine (realizes_expectChar ',').bind fun _ => ?_
  refine realizes_number.bind fun greatest => ?_
  refine (realizes_expectChar ')').bind fun _ => ?_
  exact realizes_pure (Condition.numeric field (.between least greatest))

theorem realizes_values : Realizes (listUntil closeParen value)
    (Scanner.itemsInParentheses Scanner.valueItem) :=
  realizes_listUntil closes_closeParen realizes_value

theorem realizes_valuesOf (kind : Category) :
    Realizes (valuesOf kind) (Condition.readValues (α := Float) kind) := by
  refine (realizes_expectChar '(').bind fun _ => ?_
  refine realizes_values.bind fun values => ?_
  exact realizes_pure (Condition.category kind values)

theorem realizes_category : Realizes category (Condition.readCategory (α := Float)) := by
  refine (realizes_expectChar '(').bind fun _ => ?_
  refine (realizes_identifier "category field").bind fun name => ?_
  refine (realizes_expectChar ',').bind fun _ => ?_
  refine realizes_values.bind fun values => ?_
  exact realizes_pure (Condition.category (Category.ofName name) values)

theorem realizes_tag : Realizes tag Scanner.tag :=
  (realizes_identifier "tag").bind fun _ => realizes_pure _

theorem realizes_tags : Realizes tags (Condition.readTags (α := Float)) := by
  have items : Realizes (clause _ _ tag) Scanner.tagClause.read := realizes_clause realizes_tag
  refine (realizes_expectChar '(').bind fun _ => ?_
  exact realizes_clauses items fun lists =>
    Condition.tags (lists .anyOf) (lists .allOf) (lists .noneOf)

theorem realizes_symbols : Realizes symbols (Condition.readSymbols (α := Float)) := by
  have items : Realizes (clause _ _ value) Scanner.symbolClause.read :=
    realizes_clause realizes_value
  refine (realizes_expectChar '(').bind fun _ => ?_
  exact realizes_clauses items fun lists => Condition.symbols (lists .admitted) (lists .refused)

theorem forms_alike : Alike Realizes forms (Condition.forms (α := Float)) :=
  .cons ⟨rfl, realizes_comparison _⟩ (.cons ⟨rfl, realizes_comparison _⟩
    (.cons ⟨rfl, realizes_comparison _⟩ (.cons ⟨rfl, realizes_comparison _⟩
      (.cons ⟨rfl, realizes_between⟩ (.cons ⟨rfl, realizes_valuesOf _⟩
        (.cons ⟨rfl, realizes_valuesOf _⟩ (.cons ⟨rfl, realizes_category⟩
          (.cons ⟨rfl, realizes_tags⟩ (.cons ⟨rfl, realizes_symbols⟩ .nil)))))))))

theorem realizes_condition : Realizes condition (Condition.read (α := Float)) := by
  intro text unread
  refine yields_skipBlanks.andThen ?_
  unfold Condition.read
  simp only
  cases chosen : select? (Condition.forms (α := Float)) (Text.skipBlanks unread) with
  | none =>
      refine (looks_peekKeyword.yields_firstOf_none forms_alike chosen).andThen ?_
      exact yields_refuse _
  | some found =>
      obtain ⟨form, afterWord⟩ := found
      obtain ⟨word, own, realizes, found, peeked⟩ :=
        looks_peekKeyword.yields_firstOf_some forms_alike chosen
      have solid := Text.skipBlanks_skipBlanks unread
      refine peeked.andThen ((yields_expectKeyword solid found).andThen ?_)
      exact realizes text afterWord

/-! ## Sets of conditions -/

def group (word : String) (logic : Logic) : Cursor (ConditionSet Float) := do
  expectKeyword word
  expectChar '('
  if ← closeParen then return ⟨logic, []⟩
  else return ⟨logic, ← listUntil closeParen condition⟩

/-- A group, or one bare condition. -/
def groupOrBare : Cursor (ConditionSet Float) := do
  skipBlanks
  match ← firstOf peekKeyword ConditionSet.logics with
  | some (word, logic) => group word logic
  | none => return .all [← condition]

/-- A set in front of nothing but blanks. -/
def set : Cursor (ConditionSet Float) := do
  let found ← groupOrBare
  if ← atEnd then return found
  else refuse .endOfText

theorem condition_skipBlanks (text : List Char) :
    Condition.read (α := Float) (Text.skipBlanks text) = Condition.read text := by
  unfold Condition.read
  rw [Text.skipBlanks_skipBlanks]

theorem realizes_conditions : Realizes (listUntil closeParen condition)
    (Scanner.itemsInParentheses (Condition.item (α := Float))) :=
  realizes_listUntil closes_closeParen realizes_condition

theorem yields_group {word : String} {logic : Logic} (solid : Text.skipBlanks unread = unread)
    (taken : keyword? word unread = some rest) :
    Yields text (group word logic) unread (ConditionSet.readGroup logic rest) := by
  refine (yields_expectKeyword solid taken).andThen ?_
  refine (realizes_expectChar '(' text rest).bind fun _ afterOpen _ => ?_
  simp only
  cases closed : Scanner.closing? afterOpen with
  | some final => exact (closes_closeParen.ends closed).andThen (yields_pure _)
  | none =>
      refine (closes_closeParen.goesOn closed).andThen ?_
      have items := realizes_conditions text (Text.skipBlanks afterOpen)
      rw [Scanner.itemsInParentheses, itemsUntil_skipBlanks condition_skipBlanks] at items
      exact items.bind fun _ _ _ => yields_pure _

theorem realizes_groupOrBare : Realizes groupOrBare ConditionSet.read := by
  have alike := alike_refl ConditionSet.logics
  intro text unread
  refine yields_skipBlanks.andThen ?_
  unfold ConditionSet.read
  simp only
  cases chosen : select? ConditionSet.logics (Text.skipBlanks unread) with
  | none =>
      refine (looks_peekKeyword.yields_firstOf_none alike chosen).andThen ?_
      exact (realizes_condition text _).bind fun _ _ _ => yields_pure _
  | some found =>
      obtain ⟨logic, afterWord⟩ := found
      obtain ⟨word, _, rfl, found, peeked⟩ :=
        looks_peekKeyword.yields_firstOf_some alike chosen
      exact peeked.andThen (yields_group (Text.skipBlanks_skipBlanks unread) found)

theorem yields_set : Yields text set unread
    ((ConditionSet.readWhole unread).map fun found => (found, [])) := by
  have first := realizes_groupOrBare text unread
  unfold ConditionSet.readWhole
  cases read : ConditionSet.read (α := Float) unread with
  | error refusal =>
      rw [read] at first
      exact first.halt
  | ok found =>
      obtain ⟨found, rest⟩ := found
      rw [read] at first
      refine first.andThen ?_
      dsimp only [bind, Except.bind]
      cases ended : Scanner.finished? rest with
      | some final =>
          obtain ⟨_, rfl⟩ := Scanner.finished_eq_some_iff.mp ended
          exact (closes_atEnd.ends ended).andThen (yields_pure _)
      | none => exact (closes_atEnd.goesOn ended).andThen (yields_refuse _)

/-! ## Lists of rules -/

/-- The closing parenthesis, or the parameters in front of it. -/
def paramsText : Cursor String := do
  if ← closeParen then return ""
  else
    expectChar ','
    let params ← object
    expectChar ')'
    return params

def rule (side : RuleSide) : Cursor (ScoringRule Float) := do
  let kind ← identifier "condition type"
  expectChar '('
  let weight ← number
  let params ← paramsText
  return ⟨kind, params, weight, side⟩

def rules (side : RuleSide) : Cursor (List (ScoringRule Float)) := do
  if ← atEnd then return []
  else listUntil atEnd (rule side)

theorem realizes_paramsText : Realizes paramsText ScoringRule.readParamsText := by
  intro text unread
  unfold ScoringRule.readParamsText
  cases closed : Scanner.closing? unread with
  | some final => exact (closes_closeParen.ends closed).andThen (yields_pure _)
  | none =>
      refine (closes_closeParen.goesOn closed).andThen ?_
      refine (yields_comma text unread).bind fun _ afterComma _ => ?_
      refine (realizes_object text afterComma).bind fun params afterObject _ => ?_
      exact (realizes_expectChar ')' text afterObject).bind fun _ _ _ => yields_pure _

theorem realizes_rule (side : RuleSide) :
    Realizes (rule side) (ScoringRule.read (α := Float) side) := by
  refine (realizes_identifier "condition type").bind fun kind => ?_
  refine (realizes_expectChar '(').bind fun _ => ?_
  intro text unread
  have weighted := realizes_number text unread
  unfold Condition.readBound at weighted
  simp only
  cases read : Scanner.number unread with
  | error refusal =>
      rw [read] at weighted
      exact weighted.halt
  | ok found =>
      rw [read] at weighted
      refine weighted.andThen ?_
      exact (realizes_paramsText text found.2).bind fun _ _ _ => yields_pure _

theorem rule_skipBlanks (side : RuleSide) (text : List Char) :
    ScoringRule.read (α := Float) side (Text.skipBlanks text) = ScoringRule.read side text := by
  unfold ScoringRule.read Scanner.identifier
  rw [Text.skipBlanks_skipBlanks]

theorem yields_rules (side : RuleSide) : Yields text (rules side) unread
    (match Scanner.finished? unread with
      | some final => .ok ([], final)
      | none => Scanner.itemsUntil Scanner.finished? (ScoringRule.item side) unread) := by
  cases ended : Scanner.finished? unread with
  | some final => exact (closes_atEnd.ends ended).andThen (yields_pure _)
  | none =>
      refine (closes_atEnd.goesOn ended).andThen ?_
      have items : Realizes (rule side) (ScoringRule.item side).read := realizes_rule side
      have listed := realizes_listUntil closes_atEnd items text (Text.skipBlanks unread)
      rw [itemsUntil_skipBlanks (rule_skipBlanks side)] at listed
      exact listed

/-! ## Whole texts -/

/-- What a cursor reads from the start of a text. -/
def run {β : Type} (cursor : Cursor β) (text : String) : Except Halt β :=
  (cursor text.toList 0).map Prod.fst

def parse (text : String) : Except Halt (ConditionSet Float) :=
  run set text

def parseList (side : RuleSide) (text : String) : Except Halt (List (ScoringRule Float)) :=
  run (rules side) text

theorem run_of_yields {β : Type} {cursor : Cursor β} {text : String}
    {outcome : Except Refusal (β × List Char)}
    (yields : Yields text.toList cursor text.toList outcome) :
    run cursor text = ((outcome.map Prod.fst).mapError
      fun refusal => refusal.toFault text.toList).mapError Halt.fault := by
  have start : place text.toList text.toList = 0 := Nat.sub_self _
  obtain ⟨result, _⟩ := yields (List.suffix_refl _)
  rw [start] at result
  rw [run, result]
  cases outcome with
  | ok found => rfl
  | error refusal => rfl

theorem parse_eq (text : String) :
    parse text = (ConditionSet.parse text).mapError Halt.fault := by
  refine (run_of_yields yields_set).trans ?_
  unfold ConditionSet.parse
  cases ConditionSet.readWhole (α := Float) text.toList with
  | error refusal => rfl
  | ok found => rfl

theorem parseList_eq (side : RuleSide) (text : String) :
    parseList side text = (ScoringRule.parseList side text).mapError Halt.fault := by
  refine (run_of_yields (yields_rules side)).trans ?_
  unfold ScoringRule.parseList ScoringRule.readWhole
  cases Scanner.finished? text.toList with
  | some final => rfl
  | none =>
      simp only
      cases Scanner.itemsUntil Scanner.finished? (ScoringRule.item (α := Float) side)
          text.toList with
      | error refusal => rfl
      | ok found => rfl

theorem mapError_fault_ne_mishap {β : Type} (outcome : Except SyntaxFault β) (kind : Mishap) :
    outcome.mapError Halt.fault ≠ .error (.mishap kind) := by
  cases outcome with
  | error fault => nofun
  | ok found => nofun

/-- No text brings the position off a boundary, cuts a bad slice, makes a loop stand still,
counts a brace below zero, cuts out a number that is none, or misses a keyword that was
seen.  It is read, or refused with its fault, as by the readers of sets and of rules. -/
theorem parse_ne_mishap (text : String) :
    (∀ kind, parse text ≠ .error (.mishap kind)) ∧
      (∀ side kind, parseList side text ≠ .error (.mishap kind)) ∧
      parse text = (ConditionSet.parse text).mapError Halt.fault ∧
      ∀ side, parseList side text = (ScoringRule.parseList side text).mapError Halt.fault := by
  refine ⟨fun kind => ?_, fun side kind => ?_, parse_eq text, fun side => parseList_eq side text⟩
  · rw [parse_eq]
    exact mapError_fault_ne_mishap _ kind
  · rw [parseList_eq]
    exact mapError_fault_ne_mishap _ kind

end Cursor

end DailySignals
