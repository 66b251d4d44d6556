import DailySignals.Condition.Text
import DailySignals.Proofs.Condition.Regular

/-!
# Sets read back from their text

A regular set is written as tokens of the grammar, and so it is read back from
its text as far as its bounds are.  A bound that is not finite has no text that
can be read, and a set that has one is refused as a whole.
-/

set_option autoImplicit false

namespace DailySignals

open Text Scanner Grammar

namespace Scanner

theorem renders_token {token : Token} (solid : Solid token) : Renders [token] token := by
  intro rest
  obtain ⟨c, others, rfl, notBlank⟩ := solid
  refine ⟨rest, ?_, rfl⟩
  rw [List.cons_append, skipBlanks, List.dropWhile_cons_of_neg (by simp [notBlank])]

theorem renders_mark {mark : Char} (notBlank : isBlank mark = false) : Renders [[mark]] [mark] :=
  renders_token (solid_mark notBlank)

theorem Renders.afterComma {first second : List Token} {text other : List Char}
    (one : Renders first text) (two : Renders second other) (nonempty : second ≠ []) :
    Renders (first ++ [','] :: second) (text ++ (", ".toList ++ other)) := by
  have comma : Renders [[',']] [','] := renders_mark (by decide)
  exact one.append (comma.append (two.blanks nonempty isBlank_space))

theorem renders_call {word arguments : String} {tokens : List Token} (solid : Solid word.toList)
    (inside : Renders tokens arguments.toList) :
    Renders (enclosed word tokens) (call word arguments).toList := by
  have opening : Renders [['(']] ['('] := renders_mark (by decide)
  have closing : Renders [[')']] [')'] := renders_mark (by decide)
  have whole := (renders_token solid).append (opening.append (inside.append closing))
  have text : (call word arguments).toList = word.toList ++ '(' :: (arguments.toList ++ [')']) := by
    simp [call]
  rw [text]
  exact whole

end Scanner

theorem commaSeparated_cons (first second : String) (others : List String) :
    (commaSeparated (first :: second :: others)).toList =
      first.toList ++ (", ".toList ++ (commaSeparated (second :: others)).toList) := by
  simp [commaSeparated, String.toList_intercalate, List.intercalate]

theorem commaSeparated_starts (first : String) (others : List String) :
    ∃ tail, (commaSeparated (first :: others)).toList = first.toList ++ tail := by
  cases others with
  | nil => exact ⟨[], by simp [commaSeparated]⟩
  | cons second others => exact ⟨_, commaSeparated_cons first second others⟩

namespace Grammar

/-- A thing whose text is one of the ways to write it. -/
def Shows {β : Type} (Written : β → List Token → Prop) (x : β) (text : String) : Prop :=
  ∃ tokens, Written x tokens ∧ tokens ≠ [] ∧ Renders tokens text.toList

theorem shows_list {β : Type} {Item : β → List Token → Prop} {text : β → String}
    {values : List β} (nonempty : values ≠ [])
    (each : ∀ value ∈ values, Shows Item value (text value)) :
    Shows (Separated Item) values (commaSeparated (values.map text)) := by
  induction values with
  | nil => exact absurd rfl nonempty
  | cons value others ih =>
      obtain ⟨tokens, item, filled, renders⟩ := each value List.mem_cons_self
      cases others with
      | nil =>
          refine ⟨tokens, .one item, filled, ?_⟩
          simpa [commaSeparated] using renders
      | cons second others =>
          obtain ⟨further, items, more, followed⟩ := ih (List.cons_ne_nil second others)
            fun other member => each other (List.mem_cons_of_mem _ member)
          refine ⟨tokens ++ [','] :: further, .more item items, by simp, ?_⟩
          rw [List.map_cons, List.map_cons, commaSeparated_cons, ← List.map_cons]
          exact renders.afterComma followed more

theorem shows_value {value : String} (isValue : IsValue value.toList) :
    Shows ValueItem value value := by
  have item := ValueItem.intro isValue
  rw [String.ofList_toList] at item
  exact ⟨[value.toList], item, by simp, renders_token isValue.solid⟩

theorem shows_tag {tag : Tag} (own : OwnName Tag.ofName Tag.name tag) :
    Shows TagItem tag tag.name := by
  have item := TagItem.intro own.1
  rw [String.ofList_toList, own.2] at item
  exact ⟨[tag.name.toList], item, by simp, renders_token own.1.solid⟩

section Clauses

variable {ρ β : Type} {labels : List (String × ρ)}
  {Item : β → List Token → Prop} {text : β → String}

/-- The clauses that are written: those with values. -/
def writtenClauses (clauses : List (String × ρ × List β)) : List (String × ρ × List β) :=
  clauses.filter fun clause => !clause.2.2.isEmpty

theorem clauses_eq_writtenClauses (clauses : List (String × ρ × List β)) :
    clauses.flatMap (fun entry => clause entry.1 (entry.2.2.map text)) =
      (writtenClauses clauses).map fun entry =>
        call entry.1 (commaSeparated (entry.2.2.map text)) := by
  induction clauses with
  | nil => rfl
  | cons entry clauses ih =>
      obtain ⟨word, label, values⟩ := entry
      rw [List.flatMap_cons, ih]
      cases values with
      | nil => rfl
      | cons value values => rfl

theorem listedUnder_writtenClauses [DecidableEq ρ] (label : ρ)
    (clauses : List (String × ρ × List β)) :
    listedUnder label ((writtenClauses clauses).map (·.2)) =
      listedUnder label (clauses.map (·.2)) := by
  induction clauses with
  | nil => rfl
  | cons entry clauses ih =>
      obtain ⟨word, other, values⟩ := entry
      unfold listedUnder at ih ⊢
      cases values with
      | nil => simpa [writtenClauses] using ih
      | cons value values =>
          simp only [writtenClauses] at ih
          simp [writtenClauses, ih]

/-- Clauses whose labels are those of the grammar show as the list of those with values. -/
theorem shows_clauses (keywords : AreKeywords (labels.map (·.1)))
    (named : "" ∉ labels.map (·.1)) {clauses : List (String × ρ × List β)}
    (known : ∀ entry ∈ clauses, (entry.1, entry.2.1) ∈ labels)
    (some_value : ∃ entry ∈ clauses, entry.2.2 ≠ [])
    (each : ∀ entry ∈ clauses, ∀ value ∈ entry.2.2, Shows Item value (text value)) :
    Shows (Separated (Clause labels Item)) ((writtenClauses clauses).map (·.2))
      (commaSeparated (clauses.flatMap fun entry => clause entry.1 (entry.2.2.map text))) := by
  have nonempty : writtenClauses clauses ≠ [] := by
    obtain ⟨entry, member, values⟩ := some_value
    refine List.ne_nil_of_mem (a := entry) ?_
    exact List.mem_filter.mpr ⟨member, by simpa using values⟩
  have shown : ∀ entry ∈ writtenClauses clauses,
      Shows (fun (entry : String × ρ × List β) => Clause labels Item entry.2) entry
        (call entry.1 (commaSeparated (entry.2.2.map text))) := by
    rintro ⟨word, label, values⟩ member
    obtain ⟨member, filled⟩ := List.mem_filter.mp member
    obtain ⟨tokens, items, _, renders⟩ :=
      shows_list (by simpa using filled) (each _ member)
    have solid := solid_keyword keywords named (List.mem_map_of_mem (known _ member))
    exact ⟨enclosed word tokens, .intro (known _ member) items, by simp [enclosed],
      renders_call solid renders⟩
  rw [clauses_eq_writtenClauses]
  obtain ⟨tokens, items, filled, renders⟩ := shows_list nonempty shown
  refine ⟨tokens, ?_, filled, renders⟩
  clear renders filled shown nonempty
  generalize writtenClauses clauses = written at items ⊢
  induction items with
  | one item => exact .one item
  | more item _ ih => exact .more item ih

end Clauses

end Grammar

/-- A number whose text is a number of the grammar and stands for it. -/
def ReadsBack {α : Type} [Arithmetic α] [Printed α] (x : α) : Prop :=
  ∃ decimal, Number decimal (Printed.text x).toList ∧ Arithmetic.ofDecimal decimal = x

theorem readsBack_of_digits {α : Type} [Arithmetic α] [Printed α] {x : α} (digits : List Char)
    (isDigits : digits ≠ [] ∧ digits.all Char.isDigit = true)
    (printed : (Printed.text x).toList = digits)
    (value : Arithmetic.ofDecimal ⟨false, Decimal.valueOf digits, 0⟩ = x) : ReadsBack x := by
  refine ⟨_, ?_, value⟩
  rw [printed]
  exact .intro (.whole isDigits.1 (List.all_eq_true.mp isDigits.2))

theorem Comparison.single_or_between {α : Type} (comparison : Comparison α) :
    (∃ make bound, (comparison.keyword, make) ∈ comparisons ∧ comparison = make bound ∧
      comparison.operands = [bound]) ∨
      ∃ least greatest, comparison = .between least greatest := by
  cases comparison with
  | above bound => exact .inl ⟨above, bound, by simp [comparisons, keyword], rfl, rfl⟩
  | atLeast bound => exact .inl ⟨atLeast, bound, by simp [comparisons, keyword], rfl, rfl⟩
  | below bound => exact .inl ⟨below, bound, by simp [comparisons, keyword], rfl, rfl⟩
  | atMost bound => exact .inl ⟨atMost, bound, by simp [comparisons, keyword], rfl, rfl⟩
  | between least greatest => exact .inr ⟨least, greatest, rfl⟩

namespace Condition

variable {α : Type}

def bounds : Condition α → List α
  | numeric _ comparison => comparison.operands
  | _ => []

variable [Arithmetic α] [Printed α]

theorem solid_keywords {word : String} (member : word ∈ keywords) : Solid word.toList :=
  solid_keyword (by decide) (by decide) member

theorem shows_comparison {field : Field} (own : OwnName Field.ofName Field.name field)
    {word : String} {make : α → Comparison α} (member : (word, make) ∈ comparisons)
    {bound : α} (back : ReadsBack bound) :
    Shows WrittenAs (.numeric field (make bound))
      (call word (commaSeparated [field.name, Printed.text bound])) := by
  obtain ⟨decimal, number, same⟩ := back
  have wordKnown := keyword_of_form (comparison_mem_forms member)
  have written := WrittenAs.comparison member own.1 number
  rw [String.ofList_toList, own.2, same] at written
  refine ⟨_, written, by simp [enclosed], renders_call (solid_keywords wordKnown) ?_⟩
  rw [commaSeparated_cons]
  exact (renders_token own.1.solid).afterComma (renders_token number.solid) (by simp)

theorem shows_between {field : Field} (own : OwnName Field.ofName Field.name field)
    {least greatest : α} (leastBack : ReadsBack least) (greatestBack : ReadsBack greatest) :
    Shows WrittenAs (.numeric field (.between least greatest))
      (call "BETWEEN"
        (commaSeparated [field.name, Printed.text least, Printed.text greatest])) := by
  obtain ⟨low, lowNumber, lowSame⟩ := leastBack
  obtain ⟨high, highNumber, highSame⟩ := greatestBack
  have written := WrittenAs.between (α := α) own.1 lowNumber highNumber
  rw [String.ofList_toList, own.2, lowSame, highSame] at written
  refine ⟨_, written, by simp [enclosed], renders_call (solid_keywords (by decide)) ?_⟩
  rw [commaSeparated_cons, commaSeparated_cons]
  have numbers := (renders_token lowNumber.solid).afterComma (renders_token highNumber.solid)
    (by simp)
  exact (renders_token own.1.solid).afterComma numbers (by simp)

theorem shows_category {kind : Category} (own : OwnName Category.ofName Category.name kind)
    {values : List String} (nonempty : values ≠ [])
    (areValues : ∀ value ∈ values, IsValue value.toList) :
    Shows (WrittenAs (α := α)) (.category kind values)
      (text (.category kind values : Condition α)) := by
  have listed : Shows (Separated ValueItem) values (commaSeparated (values.map id)) :=
    shows_list nonempty fun value member => shows_value (areValues value member)
  rw [List.map_id] at listed
  obtain ⟨tokens, items, filled, renders⟩ := listed
  cases kind with
  | market =>
      exact ⟨_, .market items, by simp [enclosed], renders_call (solid_keywords (by decide)) renders⟩
  | industry =>
      exact ⟨_, .industry items, by simp [enclosed],
        renders_call (solid_keywords (by decide)) renders⟩
  | other name =>
      have written := WrittenAs.category (α := α) own.1 items
      rw [String.ofList_toList, own.2] at written
      refine ⟨_, written, by simp [enclosed], renders_call (solid_keywords (by decide)) ?_⟩
      simp only [String.toList_append, List.append_assoc]
      exact (renders_token own.1.solid).afterComma renders filled

theorem shows_tags {anyOf allOf noneOf : List Tag} (nonempty : anyOf ++ allOf ++ noneOf ≠ [])
    (own : ∀ tag ∈ anyOf ++ allOf ++ noneOf, OwnName Tag.ofName Tag.name tag) :
    Shows (WrittenAs (α := α)) (.tags anyOf allOf noneOf)
      (text (.tags anyOf allOf noneOf : Condition α)) := by
  let clauses : List (String × TagUse × List Tag) :=
    [("ANY", .anyOf, anyOf), ("ALL", .allOf, allOf), ("NONE", .noneOf, noneOf)]
  have labels_known : ∀ entry ∈ clauses, (entry.1, entry.2.1) ∈ tagUses := by
    simp [clauses, tagUses]
  have some_value : ∃ entry ∈ clauses, entry.2.2 ≠ [] := by
    by_contra none
    simp [clauses] at none
    simp [none] at nonempty
  have each : ∀ entry ∈ clauses, ∀ tag ∈ entry.2.2, Shows TagItem tag tag.name := by
    intro entry member tag inside
    apply shows_tag
    apply own
    simp only [clauses, List.mem_cons, List.not_mem_nil, or_false] at member
    rcases member with rfl | rfl | rfl
    · simp [inside]
    · simp [inside]
    · simp [inside]
  obtain ⟨tokens, items, _, renders⟩ :=
    shows_clauses (by decide) (by decide) labels_known some_value each
  have written := WrittenAs.tags (α := α) items
  simp only [listedUnder_writtenClauses] at written
  have merged : (Condition.tags (listedUnder .anyOf (clauses.map (·.2)))
      (listedUnder .allOf (clauses.map (·.2))) (listedUnder .noneOf (clauses.map (·.2))) :
        Condition α) = .tags anyOf allOf noneOf := by
    simp [clauses, listedUnder]
  rw [merged] at written
  refine ⟨_, written, by simp [enclosed], renders_call (solid_keywords (by decide)) ?_⟩
  simpa [clauses] using renders

theorem shows_symbols {admitted refused : List String} (nonempty : admitted ++ refused ≠ [])
    (areValues : ∀ symbol ∈ admitted ++ refused, IsValue symbol.toList) :
    Shows (WrittenAs (α := α)) (.symbols admitted refused)
      (text (.symbols admitted refused : Condition α)) := by
  let clauses : List (String × SymbolUse × List String) :=
    [("INCLUDE", .admitted, admitted), ("EXCLUDE", .refused, refused)]
  have labels_known : ∀ entry ∈ clauses, (entry.1, entry.2.1) ∈ symbolUses := by
    simp [clauses, symbolUses]
  have some_value : ∃ entry ∈ clauses, entry.2.2 ≠ [] := by
    by_contra none
    simp [clauses] at none
    simp [none] at nonempty
  have each : ∀ entry ∈ clauses, ∀ symbol ∈ entry.2.2, Shows ValueItem symbol (id symbol) := by
    intro entry member symbol inside
    apply shows_value
    apply areValues
    simp only [clauses, List.mem_cons, List.not_mem_nil, or_false] at member
    rcases member with rfl | rfl
    · simp [inside]
    · simp [inside]
  obtain ⟨tokens, items, _, renders⟩ :=
    shows_clauses (by decide) (by decide) labels_known some_value each
  have written := WrittenAs.symbols (α := α) items
  simp only [listedUnder_writtenClauses] at written
  have merged : (Condition.symbols (listedUnder .admitted (clauses.map (·.2)))
      (listedUnder .refused (clauses.map (·.2))) : Condition α) = .symbols admitted refused := by
    simp [clauses, listedUnder]
  rw [merged] at written
  refine ⟨_, written, by simp [enclosed], renders_call (solid_keywords (by decide)) ?_⟩
  simpa [clauses] using renders

theorem shows_text {condition : Condition α} (regular : condition.IsRegular)
    (back : ∀ x ∈ condition.bounds, ReadsBack x) : Shows WrittenAs condition condition.text := by
  cases condition with
  | numeric field comparison =>
      obtain ⟨make, bound, member, rfl, operands⟩ | ⟨least, greatest, rfl⟩ :=
        comparison.single_or_between
      · have boundBack : ReadsBack bound := back bound (by simp [bounds, operands])
        have shown := shows_comparison regular member boundBack
        rw [text, operands]
        exact shown
      · have leastBack := back least (by simp [bounds, Comparison.operands])
        have greatestBack := back greatest (by simp [bounds, Comparison.operands])
        exact shows_between regular leastBack greatestBack
  | category kind values => exact shows_category regular.1 regular.2.1 regular.2.2
  | tags anyOf allOf noneOf => exact shows_tags regular.1 regular.2
  | symbols admitted refused => exact shows_symbols regular.1 regular.2

end Condition

namespace ConditionSet

variable {α : Type}

def bounds (set : ConditionSet α) : List α :=
  set.conditions.flatMap Condition.bounds

variable [Arithmetic α] [Printed α]

theorem keyword_mem_logics (logic : Logic) : (logic.keyword, logic) ∈ logics := by
  cases logic with
  | all => simp [logics, Logic.keyword]
  | any => simp [logics, Logic.keyword]

theorem shows_set {set : ConditionSet α}
    (regular : ∀ condition ∈ set.conditions, condition.IsRegular)
    (back : ∀ x ∈ set.bounds, ReadsBack x) : Shows WrittenAs set set.text := by
  obtain ⟨logic, conditions⟩ := set
  have known := keyword_mem_logics logic
  have solid := solid_logic known
  cases conditions with
  | nil => exact ⟨_, .empty known, by simp [enclosed], renders_call solid fun _ => rfl⟩
  | cons condition others =>
      have each : ∀ other ∈ condition :: others, Shows Condition.WrittenAs other other.text := by
        intro other member
        refine Condition.shows_text (regular other member) fun x inside => back x ?_
        exact List.mem_flatMap.mpr ⟨other, member, inside⟩
      obtain ⟨tokens, listed, _, renders⟩ := shows_list (List.cons_ne_nil _ _) each
      exact ⟨_, .group known listed, by simp [enclosed], renders_call solid renders⟩

theorem parse_text_of_readsBack {set : ConditionSet α}
    (regular : ∀ condition ∈ set.conditions, condition.IsRegular)
    (back : ∀ x ∈ set.bounds, ReadsBack x) : parse set.text = .ok set := by
  obtain ⟨tokens, written, _, renders⟩ := shows_set regular back
  have begins := renders []
  rw [List.append_nil] at begins
  obtain ⟨rest, success, same⟩ := reads_set.complete written begins delimited_nil
  rw [parse, mapError_eq_ok, readWhole_eq_ok_iff]
  exact ⟨rest, success, same⟩

omit [Printed α] in
theorem isRegular_of_parse {text : String} {set : ConditionSet α} (success : parse text = .ok set) :
    ∀ condition ∈ set.conditions, condition.IsRegular := by
  rw [parse, mapError_eq_ok, readWhole_eq_ok_iff] at success
  obtain ⟨rest, success, _⟩ := success
  obtain ⟨tokens, after, written, _⟩ := reads_set.sound success
  cases written with
  | empty => nofun
  | group known listed =>
      intro condition member
      obtain ⟨own, written⟩ := listed.each condition member
      exact written.isRegular
  | bare written =>
      intro condition member
      rw [List.mem_singleton.mp member]
      exact written.isRegular

end ConditionSet

end DailySignals
