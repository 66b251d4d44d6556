import DailySignals.Proofs.Condition.Rendering
import DailySignals.Proofs.Scoring.ObjectText
import DailySignals.Scoring.Parser

/-!
# Lists of rules read back from their text

A rule is written as a name with a number and, unless it has no parameters, the
object of its parameters.  A list of such rules is read back rule by rule, and
each object is taken over as it stands.
-/

set_option autoImplicit false

namespace DailySignals

open Text Scanner Grammar

namespace ScoringRule

/-- The end of a rule: its parameters, if it has any, and the parenthesis. -/
inductive ParamsWrittenAs : String → List Token → Prop
  | absent : ParamsWrittenAs "" [[')']]
  | object {params : Token} (derives : Json.Derives .object params) :
      ParamsWrittenAs (String.ofList params) [[','], params, [')']]

/-- The tokens that the end of a rule is read from.  The reader asks of the parameters
only that their braces match. -/
inductive ParamsReadFrom : String → List Token → Prop
  | absent : ParamsReadFrom "" [[')']]
  | object {params : Token} (braced : IsBraced params) :
      ParamsReadFrom (String.ofList params) [[','], params, [')']]

theorem ParamsWrittenAs.readFrom {params : String} {tokens : List Token}
    (written : ParamsWrittenAs params tokens) : ParamsReadFrom params tokens := by
  cases written with
  | absent => exact .absent
  | object derives => exact .object (isBraced_of_derives derives)

theorem ParamsReadFrom.delimited {params : String} {tokens : List Token}
    (written : ParamsReadFrom params tokens) {text rest : List Char}
    (begins : Begins tokens text rest) : Delimited text := by
  cases written with
  | absent =>
      obtain ⟨_, closed, _⟩ := begins
      exact delimited_of_mark closed (by decide)
  | object =>
      obtain ⟨_, comma, _⟩ := begins
      exact delimited_of_mark comma (by decide)

theorem readParamsText_of_readFrom {params : String} {tokens : List Token}
    (written : ParamsReadFrom params tokens) {text rest : List Char}
    (begins : Begins tokens text rest) : readParamsText text = .ok (params, rest) := by
  unfold readParamsText
  cases written with
  | absent =>
      obtain ⟨_, closed, rfl⟩ := begins
      simp only [closing_eq_some_iff.mpr closed]
      rfl
  | object braced =>
      obtain ⟨afterComma, comma, afterParams, paramsParts, _, closed, rfl⟩ := begins
      have not_closed : closing? text = none := isEnd_closing.comma comma
      have found := object_eq_ok_iff.mpr ⟨_, braced, rfl, paramsParts⟩
      simp only [not_closed]
      refine (bind_of_ok (character_of_mark comma)).trans ?_
      refine (bind_of_ok found).trans ?_
      exact bind_of_ok (character_of_mark closed)

section Rules

variable {α : Type} [Arithmetic α] {side : RuleSide}

/-- The ways to write a rule of one side. -/
inductive WrittenAs (side : RuleSide) : ScoringRule α → List Token → Prop
  | intro {name numeral : Token} {decimal : Decimal} {params : String} {ending : List Token}
      (isName : IsName name) (number : Number decimal numeral)
      (written : ParamsWrittenAs params ending) :
      WrittenAs side ⟨String.ofList name, params, Arithmetic.ofDecimal decimal, side⟩
        (name :: ['('] :: numeral :: ending)

/-- The tokens that a rule of one side is read from. -/
inductive ReadFrom (side : RuleSide) : ScoringRule α → List Token → Prop
  | intro {name numeral : Token} {decimal : Decimal} {params : String} {ending : List Token}
      (isName : IsName name) (number : Number decimal numeral)
      (written : ParamsReadFrom params ending) :
      ReadFrom side ⟨String.ofList name, params, Arithmetic.ofDecimal decimal, side⟩
        (name :: ['('] :: numeral :: ending)

theorem WrittenAs.readFrom {rule : ScoringRule α} {tokens : List Token}
    (written : WrittenAs side rule tokens) : ReadFrom side rule tokens := by
  obtain ⟨isName, number, written⟩ := written
  exact .intro isName number written.readFrom

theorem accepts_readFrom : Accepts (item (α := α) side).read (ReadFrom side) := by
  intro rule tokens text rest written begins _
  obtain @⟨name, numeral, decimal, params, ending, isName, number, written⟩ := written
  obtain ⟨afterName, nameParts, afterOpen, opened, afterNumber, numberParts, begins⟩ := begins
  have nameStops := (delimited_of_mark opened (by decide)).stops_name
  have named : identifier "condition type" text = .ok (String.ofList name, afterName) :=
    identifier_eq_ok_iff.mpr ⟨name, isName, rfl, nameParts, nameStops⟩
  have weighted := number_eq_ok_of_number number numberParts (written.delimited begins)
  have ended := readParamsText_of_readFrom written begins
  refine ⟨rest, ?_, rfl⟩
  change read side text = _
  unfold read
  refine (bind_of_ok named).trans ?_
  refine (bind_of_ok (character_of_mark opened)).trans ?_
  refine (bind_of_ok weighted).trans ?_
  exact bind_of_ok ended

theorem accepts_rule : Accepts (item (α := α) side).read (WrittenAs side) :=
  fun written begins delimited => accepts_readFrom written.readFrom begins delimited

/-- A rule that can be written: its kind is a name, and its parameters are absent
or an object. -/
structure IsWritable (rule : ScoringRule α) : Prop where
  kind : IsName rule.kind.toList
  params : rule.params = "" ∨ Json.Derives .object rule.params.toList

theorem WrittenAs.of_isWritable {rule : ScoringRule α} (writable : rule.IsWritable)
    {decimal : Decimal} {numeral : Token} (number : Number decimal numeral)
    (same : Arithmetic.ofDecimal decimal = rule.weight) {ending : List Token}
    (written : ParamsWrittenAs rule.params ending) :
    WrittenAs rule.side rule (rule.kind.toList :: ['('] :: numeral :: ending) := by
  have intro_rule : WrittenAs (α := α) rule.side
      ⟨String.ofList rule.kind.toList, rule.params, Arithmetic.ofDecimal decimal, rule.side⟩
      (rule.kind.toList :: ['('] :: numeral :: ending) := .intro writable.kind number written
  rw [String.ofList_toList, same] at intro_rule
  exact intro_rule

omit [Arithmetic α] in
theorem solid_of_isBraced {text : List Char} (braced : IsBraced text) : Solid text := by
  obtain ⟨rest, rfl⟩ := braced.starts
  exact ⟨_, rest, rfl, by decide⟩

theorem ReadFrom.solid {rule : ScoringRule α} {tokens : List Token}
    (written : ReadFrom side rule tokens) : ∀ token ∈ tokens, Solid token := by
  obtain @⟨name, numeral, decimal, params, ending, isName, number, written⟩ := written
  have opening : Solid ['('] := solid_mark (by decide)
  have closing : Solid [')'] := solid_mark (by decide)
  have comma : Solid [','] := solid_mark (by decide)
  cases written with
  | absent => simp [isName.solid, opening, number.solid, closing]
  | object braced =>
      simp [isName.solid, opening, number.solid, comma, solid_of_isBraced braced, closing]

theorem WrittenAs.solid {rule : ScoringRule α} {tokens : List Token}
    (written : WrittenAs side rule tokens) : ∀ token ∈ tokens, Solid token :=
  written.readFrom.solid

variable [Printed α]

theorem shows_rule {rule : ScoringRule α} (writable : rule.IsWritable)
    (back : ReadsBack rule.weight) : Shows (WrittenAs rule.side) rule rule.text := by
  obtain ⟨decimal, number, same⟩ := back
  have kind := writable.kind.solid
  have weight := renders_token number.solid
  rcases writable.params with absent | derives
  · have ending : ParamsWrittenAs rule.params [[')']] := absent ▸ .absent
    have text : rule.text = call rule.kind (Printed.text rule.weight) := by
      unfold ScoringRule.text
      rw [absent, if_pos (by rfl)]
    refine ⟨_, .of_isWritable writable number same ending, by simp, ?_⟩
    rw [text]
    exact renders_call kind weight
  · have params := renders_token (solid_of_isBraced (isBraced_of_derives derives))
    have ending : ParamsWrittenAs rule.params [[','], rule.params.toList, [')']] := by
      have object := ParamsWrittenAs.object derives
      rw [String.ofList_toList] at object
      exact object
    have text : rule.text =
        call rule.kind (commaSeparated [Printed.text rule.weight, rule.params]) := by
      unfold ScoringRule.text
      have notBlank : Text.isAllBlank rule.params = false := by
        obtain ⟨c, others, spelled, head⟩ :=
          solid_of_isBraced (isBraced_of_derives derives)
        simp [Text.isAllBlank, spelled, head]
      rw [notBlank]
      rfl
    have arguments : Renders [(Printed.text rule.weight).toList, [','], rule.params.toList]
        (commaSeparated [Printed.text rule.weight, rule.params]).toList := by
      rw [commaSeparated_cons]
      exact weight.afterComma params (List.cons_ne_nil _ _)
    refine ⟨_, .of_isWritable writable number same ending, by simp, ?_⟩
    rw [text]
    exact renders_call kind arguments

/-- A text that goes on with a token is not at its end. -/
theorem finished_eq_none {tokens : List Token} (solid : ∀ token ∈ tokens, Solid token)
    (nonempty : tokens ≠ []) {text rest : List Char} (begins : Begins tokens text rest) :
    finished? text = none := by
  obtain ⟨token, tokens, rfl⟩ := List.exists_cons_of_ne_nil nonempty
  obtain ⟨after, parts, _⟩ := begins
  obtain ⟨c, others, rfl, _⟩ := solid token List.mem_cons_self
  rw [Option.eq_none_iff_forall_ne_some]
  intro final finished
  rw [finished_eq_some_iff, parts] at finished
  cases finished.1

/-- The texts of the rules of one side, with commas between, are read back as the
rules.  Of the text of a finite weight it is assumed that it reads back. -/
theorem parseList_texts {rules : List (ScoringRule α)}
    (sides : ∀ rule ∈ rules, rule.side = side) (writable : ∀ rule ∈ rules, rule.IsWritable)
    (finite : ∀ rule ∈ rules, Arithmetic.isFinite rule.weight = true)
    (printer : ∀ rule ∈ rules, Arithmetic.isFinite rule.weight = true → ReadsBack rule.weight) :
    parseList side (commaSeparated (rules.map text)) = .ok rules := by
  rw [parseList, mapError_eq_ok]
  cases rules with
  | nil => rfl
  | cons rule others =>
      have each : ∀ other ∈ rule :: others, Shows (WrittenAs side) other other.text := by
        intro other member
        have back := printer other member (finite other member)
        have shown := shows_rule (writable other member) back
        rw [sides other member] at shown
        exact shown
      obtain ⟨tokens, listed, nonempty, renders⟩ := shows_list (List.cons_ne_nil _ _) each
      have begins := renders []
      rw [List.append_nil] at begins
      have more : finished? (commaSeparated ((rule :: others).map text)).toList = none :=
        finished_eq_none (listed.solid WrittenAs.solid) nonempty begins
      have read := itemsUntil_of_separated isEnd_finished accepts_rule listed begins
        (finished_eq_some_iff.mpr ⟨rfl, rfl⟩)
      unfold readWhole
      simp only [more]
      exact (bind_of_ok read).trans (pure_eq_ok.mpr rfl)

end Rules

/-- A rule without parameters, and one with an object in an object, a bracket
inside a string, and a quote in it. -/
theorem parseList_texts_nested :
    let rules : List (ScoringRule Float) :=
      [⟨"BASE_SCORE", "", 60.0, .entry⟩,
        ⟨"PRICE_RETURN", "\x7b\"a\": \x7b\"\\\"\x7d\": [-2.5]\x7d\x7d", 40.0, .entry⟩]
    commaSeparated (rules.map text) =
        "BASE_SCORE(60), PRICE_RETURN(40, \x7b\"a\": \x7b\"\\\"\x7d\": [-2.5]\x7d\x7d)" ∧
      parseList .entry (commaSeparated (rules.map text)) = .ok rules := by
  intro rules
  have letter : Json.StringBody ['a'] := .plain (by decide) (by decide) (by decide) .done
  have quoteBrace : Json.StringBody ['\\', '"', '\x7d'] :=
    .escaped (by decide) (.plain (by decide) (by decide) (by decide) .done)
  have none : Json.IsSpaces [] := nofun
  have space : Json.IsSpaces [' '] := by
    intro c member
    rw [List.mem_singleton.mp member]
    decide
  have number : Json.IsNumber ['-'] ['2'] ['.', '5'] [] :=
    ⟨.inr rfl, .inr ⟨⟨by decide, List.forall_mem_singleton.mpr (by decide)⟩, by decide⟩,
      .inr ⟨['5'], ⟨by decide, List.forall_mem_singleton.mpr (by decide)⟩, rfl⟩, .inl rfl⟩
  have inner := Json.Derives.object (.lastMember (.member none quoteBrace none space
    (.array (.element none (.number number) none)) none))
  have params := Json.Derives.object (.lastMember (.member none letter none space
    (.ofObject inner) none))
  have isWritable : ∀ rule ∈ rules, rule.IsWritable := by
    intro rule member
    simp only [rules, List.mem_cons, List.not_mem_nil, or_false] at member
    rcases member with rfl | rfl
    · exact ⟨by decide +kernel, .inl rfl⟩
    · refine ⟨by decide +kernel, .inr ?_⟩
      exact params
  have back : ∀ rule ∈ rules, Arithmetic.isFinite rule.weight = true → ReadsBack rule.weight := by
    intro rule member _
    simp only [rules, List.mem_cons, List.not_mem_nil, or_false] at member
    rcases member with rfl | rfl
    · exact readsBack_of_digits "60".toList (by decide) (by decide +kernel) (by decide +kernel)
    · exact readsBack_of_digits "40".toList (by decide) (by decide +kernel) (by decide +kernel)
  constructor
  · decide +kernel
  · refine parseList_texts ?_ isWritable ?_ back
    · decide +kernel
    · decide +kernel

end ScoringRule

end DailySignals
