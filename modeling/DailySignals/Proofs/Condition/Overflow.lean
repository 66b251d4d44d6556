import DailySignals.Proofs.Condition.Rendering

/-!
# Bounds that are not finite

A literal may be too large for a double.  The set it stands in is read, but the
text of its bound has no digit, and the set is not read back: the text is refused
at the first such bound.
-/

set_option autoImplicit false

namespace DailySignals

open Text Scanner Grammar

open Float.Model in
theorem Binary.biased_of_not_finite {x : Float} (notFinite : x.isFinite = false) :
    x.toBits.toNat / leadingBit % 2048 = 2047 := by
  change (UnpackedFloat.unpack .binary64 x.toBits.toBitVec).isFinite = false at notFinite
  unfold UnpackedFloat.unpack at notFinite
  by_cases ones : @UnpackedFloat.unpackExponent .binary64 x.toBits.toBitVec = -1#11
  · have exponent := congrArg BitVec.toNat ones
    simp [UnpackedFloat.unpackExponent, Nat.shiftRight_eq_div_pow] at exponent
    exact exponent
  · rw [if_neg ones] at notFinite
    by_cases zeros : @UnpackedFloat.unpackExponent .binary64 x.toBits.toBitVec = 0#11
    · rw [if_pos zeros] at notFinite
      by_cases empty : @UnpackedFloat.unpackMantissa .binary64 x.toBits.toBitVec = 0#52
      · rw [dif_pos empty] at notFinite
        cases notFinite
      · rw [dif_neg empty] at notFinite
        cases notFinite
    · rw [if_neg zeros] at notFinite
      cases notFinite

theorem Layout.write_of_not_finite (layout : Layout) {x : Float} (notFinite : x.isFinite = false) :
    layout.write x = "NaN" ∨ layout.write x = "inf" ∨ layout.write x = "-inf" := by
  unfold write Binary.ofFloat
  simp only [Binary.biased_of_not_finite notFinite, if_true]
  by_cases infinite : x.toBits.toNat % Binary.leadingBit = 0
  · by_cases negative : Binary.signBit ≤ x.toBits.toNat
    · simp [infinite, negative]
    · simp [infinite, negative]
  · simp [infinite]

namespace Scanner

/-- A text that a step refuses, whatever blanks are in front and whatever follows. -/
def Refuses {β : Type} (step : Step β) (text : String) : Prop :=
  ∀ blanks rest, (∀ c ∈ blanks, isBlank c = true) →
    ∃ refusal, step (blanks ++ (text.toList ++ rest)) = .error refusal

/-- A list is refused if one of its items is, and all before it are read. -/
theorem refuses_list {β : Type} {close : List Char → Option (List Char)} {item : Item β}
    {Written : β → List Token → Prop} (ends : IsEnd close) (reads : Reads item.read Written)
    {text : β → String} {values : List β}
    (each : ∀ value ∈ values,
      Shows Written value (text value) ∨ Refuses item.read (text value))
    (some_refused : ∃ value ∈ values, Refuses item.read (text value)) :
    Refuses (itemsUntil close item) (commaSeparated (values.map text)) := by
  induction values with
  | nil =>
      obtain ⟨value, member, _⟩ := some_refused
      cases member
  | cons value others ih =>
      intro blanks rest blank
      by_cases refused : Refuses item.read (text value)
      · -- whatever follows the first item is not looked at
        obtain ⟨tail, starts⟩ := commaSeparated_starts (text value) (others.map text)
        obtain ⟨refusal, failed⟩ := refused blanks (tail ++ rest) blank
        refine ⟨refusal, bind_of_error ?_⟩
        rw [List.map_cons, starts, List.append_assoc]
        exact failed
      · obtain ⟨tokens, written, nonempty, renders⟩ :=
          (each value List.mem_cons_self).resolve_right refused
        have other_refused : ∃ other ∈ others, Refuses item.read (text other) := by
          obtain ⟨other, member, otherRefused⟩ := some_refused
          rcases List.mem_cons.mp member with rfl | member
          · exact absurd otherRefused refused
          · exact ⟨other, member, otherRefused⟩
        have further := ih (fun other member => each other (List.mem_cons_of_mem _ member))
          other_refused
        obtain ⟨_, member, _⟩ := other_refused
        obtain ⟨second, others, rfl⟩ := List.exists_cons_of_ne_nil (List.ne_nil_of_mem member)
        let followed := (commaSeparated ((second :: others).map text)).toList ++ rest
        have comma : skipBlanks (", ".toList ++ followed) = ',' :: ([' '] ++ followed) := rfl
        have begins := renders.blanks nonempty blank (", ".toList ++ followed)
        obtain ⟨afterItem, read, same⟩ :=
          reads.complete written begins (delimited_of_mark comma (by decide))
        obtain ⟨refusal, failed⟩ := further [' '] rest isBlank_space
        have stopped := (furtherItems_of_comma ends (same.trans comma)).trans failed
        refine ⟨refusal, ?_⟩
        rw [List.map_cons, List.map_cons, commaSeparated_cons, ← List.map_cons]
        rw [List.append_assoc] at read ⊢
        exact (bind_of_ok read).trans (bind_of_error stopped)

end Scanner

namespace Condition

theorem refuses_bound {x : Float} (notFinite : x.isFinite = false) :
    Refuses (readBound (α := Float)) (Printed.text x) := by
  have words : Printed.text x = "NaN" ∨ Printed.text x = "inf" ∨ Printed.text x = "-inf" :=
    Layout.plain.write_of_not_finite notFinite
  intro blanks rest blank
  have no_number : ∃ refusal, number (blanks ++ ((Printed.text x).toList ++ rest)) =
      .error refusal := by
    unfold number
    rw [skipBlanks_append blank]
    rcases words with word | word | word
    · rw [word]
      exact ⟨_, rfl⟩
    · rw [word]
      exact ⟨_, rfl⟩
    · rw [word]
      exact ⟨_, rfl⟩
  obtain ⟨refusal, failed⟩ := no_number
  exact ⟨refusal, bind_of_error failed⟩

variable {α : Type} [Arithmetic α] [Printed α]

/-- The reader of a numeric condition comes to its first bound. -/
theorem begins_bound {field : Field} (own : OwnName Field.ofName Field.name field) {word : String}
    (member : word ∈ keywords) (first : String) (others : List String) {blanks : List Char}
    (blank : ∀ c ∈ blanks, isBlank c = true) (rest : List Char) :
    Begins [word.toList, ['('], field.name.toList, [',']]
      (blanks ++ ((call word (commaSeparated (field.name :: first :: others))).toList ++ rest))
      ([' '] ++ ((commaSeparated (first :: others)).toList ++ (')' :: rest))) := by
  have opening : Renders [['(']] ['('] := renders_mark (by decide)
  have comma : Renders [[',']] [','] := renders_mark (by decide)
  have start := (renders_token (solid_keywords member)).append
    (opening.append ((renders_token own.1.solid).append comma))
  have begins := start.blanks (List.cons_ne_nil _ _) blank
    ([' '] ++ ((commaSeparated (first :: others)).toList ++ (')' :: rest)))
  have text : blanks ++
      ((call word (commaSeparated (field.name :: first :: others))).toList ++ rest) =
      blanks ++ (word.toList ++ (['('] ++ (field.name.toList ++ [',']))) ++
        ([' '] ++ ((commaSeparated (first :: others)).toList ++ (')' :: rest))) := by
    simp [call, commaSeparated_cons]
  rw [text]
  exact begins

theorem read_to_bound {field : Field} (own : OwnName Field.ofName Field.name field)
    {text after : List Char} (begins : Begins [['('], field.name.toList, [',']] text after) :
    ∃ afterOpen afterName, character '(' text = .ok ((), afterOpen) ∧
      readField afterOpen = .ok (field, afterName) ∧
      character ',' afterName = .ok ((), after) := by
  obtain ⟨afterOpen, opened, afterName, nameParts, _, comma, rfl⟩ := begins
  have nameStops := (delimited_of_mark comma (by decide)).stops_name
  have named := readField_eq_ok_iff.mpr ⟨_, own.1, rfl, nameParts, nameStops⟩
  rw [String.ofList_toList, own.2] at named
  exact ⟨afterOpen, afterName, character_of_mark opened, named, character_of_mark comma⟩

theorem refuses_comparison {field : Field} (own : OwnName Field.ofName Field.name field)
    {word : String} {make : α → Comparison α} (member : (word, make) ∈ comparisons) {bound : α}
    (refused : Refuses (readBound (α := α)) (Printed.text bound)) :
    Refuses (read (α := α)) (call word (commaSeparated [field.name, Printed.text bound])) := by
  intro blanks rest blank
  have known := comparison_mem_forms member
  obtain ⟨afterWord, parts, begins⟩ :=
    begins_bound own (keyword_of_form known) (Printed.text bound) [] blank rest
  obtain ⟨afterOpen, afterName, opened, named, comma⟩ := read_to_bound own begins
  obtain ⟨refusal, failed⟩ := refused [' '] (')' :: rest) isBlank_space
  refine ⟨refusal, ?_⟩
  rw [read_eq_form known parts (stops_of_parenthesis begins)]
  unfold readComparison
  rw [bind_of_ok opened]
  refine (bind_of_ok named).trans ?_
  refine (bind_of_ok comma).trans ?_
  exact bind_of_error failed

/-- A range is refused at its first bound that is. -/
theorem refuses_between {field : Field} (own : OwnName Field.ofName Field.name field)
    {least greatest : α}
    (refused : Refuses (readBound (α := α)) (Printed.text least) ∨
      ReadsBack least ∧ Refuses (readBound (α := α)) (Printed.text greatest)) :
    Refuses (read (α := α)) (call "BETWEEN"
      (commaSeparated [field.name, Printed.text least, Printed.text greatest])) := by
  intro blanks rest blank
  have known : ("BETWEEN", readBetween) ∈ forms (α := α) := by simp [forms]
  obtain ⟨afterWord, parts, begins⟩ := begins_bound own (keyword_of_form known)
    (Printed.text least) [Printed.text greatest] blank rest
  rw [read_eq_form known parts (stops_of_parenthesis begins)]
  obtain ⟨afterOpen, afterName, opened, named, comma⟩ := read_to_bound own begins
  rw [commaSeparated_cons, List.append_assoc] at comma
  unfold readBetween
  rw [bind_of_ok opened]
  rcases refused with refused | ⟨⟨decimal, number, same⟩, refused⟩
  · obtain ⟨refusal, failed⟩ := refused [' '] _ isBlank_space
    refine ⟨refusal, ?_⟩
    refine (bind_of_ok named).trans ?_
    refine (bind_of_ok comma).trans ?_
    exact bind_of_error failed
  · obtain ⟨refusal, failed⟩ := refused [' '] (')' :: rest) isBlank_space
    let afterLeast := ", ".toList ++ (commaSeparated [Printed.text greatest]).toList ++ ')' :: rest
    have second : skipBlanks afterLeast =
        ',' :: ([' '] ++ ((Printed.text greatest).toList ++ ')' :: rest)) := rfl
    have numberParts : skipBlanks ([' '] ++ ((Printed.text least).toList ++ afterLeast)) =
        (Printed.text least).toList ++ afterLeast := by
      obtain ⟨after, found, rfl⟩ := (renders_token number.solid) afterLeast
      rw [skipBlanks_append isBlank_space]
      exact found
    have lowRead := readBound_of_number (α := α) number numberParts
      (delimited_of_mark second (by decide))
    refine ⟨refusal, ?_⟩
    refine (bind_of_ok named).trans ?_
    refine (bind_of_ok comma).trans ?_
    refine (bind_of_ok lowRead).trans ?_
    refine (bind_of_ok (character_of_mark second)).trans ?_
    exact bind_of_error failed

/-- A condition is refused if its bounds read back up to one that is refused. -/
theorem refuses_text {condition : Condition α} (regular : condition.IsRegular)
    (each : ∀ x ∈ condition.bounds,
      ReadsBack x ∨ Refuses (readBound (α := α)) (Printed.text x))
    (some_refused : ∃ x ∈ condition.bounds, Refuses (readBound (α := α)) (Printed.text x)) :
    Refuses (read (α := α)) condition.text := by
  obtain ⟨x, member, refused⟩ := some_refused
  cases condition with
  | numeric field comparison =>
      obtain ⟨make, bound, known, rfl, operands⟩ | ⟨least, greatest, rfl⟩ :=
        comparison.single_or_between
      · simp only [bounds, operands, List.mem_singleton] at member
        rw [text, operands]
        exact refuses_comparison regular known (member ▸ refused)
      · apply refuses_between regular
        rcases each least (by simp [bounds, Comparison.operands]) with back | low
        · simp only [bounds, Comparison.operands, List.mem_cons, List.not_mem_nil,
            or_false] at member
          rcases member with rfl | rfl
          · exact .inl refused
          · exact .inr ⟨back, refused⟩
        · exact .inl low
  | category kind values => cases member
  | tags anyOf allOf noneOf => cases member
  | symbols admitted refused => cases member

omit [Arithmetic α] in
theorem text_eq_call (condition : Condition α) :
    ∃ word ∈ keywords, ∃ arguments, condition.text = call word arguments := by
  cases condition with
  | numeric field comparison =>
      refine ⟨comparison.keyword, ?_, _, rfl⟩
      cases comparison with
      | above => simp [keywords, Comparison.keyword]
      | atLeast => simp [keywords, Comparison.keyword]
      | below => simp [keywords, Comparison.keyword]
      | atMost => simp [keywords, Comparison.keyword]
      | between => simp [keywords, Comparison.keyword]
  | category kind values =>
      cases kind with
      | market => exact ⟨"MARKET", by decide, _, rfl⟩
      | industry => exact ⟨"INDUSTRY", by decide, _, rfl⟩
      | other name => exact ⟨"CATEGORY", by decide, _, rfl⟩
  | tags anyOf allOf noneOf => exact ⟨"TAGS", by decide, _, rfl⟩
  | symbols admitted refused => exact ⟨"SYMBOLS", by decide, _, rfl⟩

end Condition

namespace ConditionSet

variable {α : Type} [Arithmetic α] [Printed α]

omit [Arithmetic α] in
theorem closing_eq_none_of_text (condition : Condition α) (others : List (Condition α))
    (rest : List Char) :
    closing? ((commaSeparated ((condition :: others).map Condition.text)).toList ++ rest) =
      none := by
  obtain ⟨word, known, arguments, text⟩ := condition.text_eq_call
  obtain ⟨tail, starts⟩ := commaSeparated_starts condition.text (others.map Condition.text)
  obtain ⟨after, parts, _⟩ := renders_token (Condition.solid_keywords known)
    ("(".toList ++ arguments.toList ++ ")".toList ++ tail ++ rest)
  rw [List.map_cons, starts, text]
  apply closing_eq_none known
  simpa [call] using parts

theorem refuses_conditions {conditions : List (Condition α)}
    (regular : ∀ condition ∈ conditions, condition.IsRegular)
    (each : ∀ condition ∈ conditions, ∀ x ∈ condition.bounds,
      ReadsBack x ∨ Refuses (Condition.readBound (α := α)) (Printed.text x))
    (some_refused : ∃ condition ∈ conditions, ∃ x ∈ condition.bounds,
      Refuses (Condition.readBound (α := α)) (Printed.text x)) :
    Refuses (itemsInParentheses (Condition.item (α := α)))
      (commaSeparated (conditions.map Condition.text)) := by
  apply refuses_list isEnd_closing Condition.reads_condition
  · intro condition member
    by_cases some_bound : ∃ x ∈ condition.bounds,
        Refuses (Condition.readBound (α := α)) (Printed.text x)
    · right
      exact Condition.refuses_text (regular condition member) (each condition member) some_bound
    · left
      refine Condition.shows_text (regular condition member) fun x inside => ?_
      refine (each condition member x inside).resolve_right ?_
      exact fun refused => some_bound ⟨x, inside, refused⟩
  · obtain ⟨condition, member, some_bound⟩ := some_refused
    exact ⟨condition, member,
      Condition.refuses_text (regular condition member) (each condition member) some_bound⟩

theorem read_text_refused (logic : Logic) {first : Condition α} {others : List (Condition α)}
    (refused : Refuses (itemsInParentheses (Condition.item (α := α)))
      (commaSeparated ((first :: others).map Condition.text))) :
    ∃ refusal, read (α := α) (ConditionSet.text ⟨logic, first :: others⟩).toList =
      .error refusal := by
  have known := keyword_mem_logics logic
  have opening : Renders [['(']] ['('] := renders_mark (by decide)
  let arguments := (commaSeparated ((first :: others).map Condition.text)).toList ++ [')']
  have text : (ConditionSet.text ⟨logic, first :: others⟩).toList =
      logic.keyword.toList ++ ['('] ++ arguments := by
    simp [ConditionSet.text, call, arguments]
  obtain ⟨afterWord, parts, begins⟩ :=
    (renders_token (solid_logic known)).append opening arguments
  have opened : character '(' afterWord = .ok ((), arguments) := by
    obtain ⟨_, opened, rfl⟩ := begins
    exact character_of_mark opened
  have not_closed : closing? arguments = none := closing_eq_none_of_text first others [')']
  obtain ⟨refusal, failed⟩ := refused [] [')'] (List.forall_mem_nil _)
  refine ⟨refusal, ?_⟩
  rw [text, read_eq_readGroup (α := α) known parts (stops_of_parenthesis begins)]
  unfold readGroup
  rw [bind_of_ok opened]
  simp only [not_closed]
  exact bind_of_error failed

theorem parse_text_refused {set : ConditionSet α}
    (regular : ∀ condition ∈ set.conditions, condition.IsRegular)
    (each : ∀ x ∈ set.bounds,
      ReadsBack x ∨ Refuses (Condition.readBound (α := α)) (Printed.text x))
    (some_refused : ∃ x ∈ set.bounds, Refuses (Condition.readBound (α := α)) (Printed.text x)) :
    ∃ fault, parse (α := α) set.text = .error fault := by
  obtain ⟨logic, conditions⟩ := set
  obtain ⟨x, bound, refused⟩ := some_refused
  obtain ⟨condition, member, inside⟩ := List.mem_flatMap.mp bound
  have list_refused : Refuses (itemsInParentheses (Condition.item (α := α)))
      (commaSeparated (conditions.map Condition.text)) := by
    apply refuses_conditions regular
    · exact fun other otherMember y otherInside =>
        each y (List.mem_flatMap.mpr ⟨other, otherMember, otherInside⟩)
    · exact ⟨condition, member, x, inside, refused⟩
  obtain ⟨first, others, rfl⟩ := List.exists_cons_of_ne_nil (List.ne_nil_of_mem member)
  obtain ⟨refusal, failed⟩ := read_text_refused logic list_refused
  exact ⟨_, mapError_eq_error.mpr ⟨refusal, bind_of_error failed, rfl⟩⟩

/-- A set that was read is read back from its text, if its bounds are finite, and
its text is refused otherwise.  Of the text of a finite bound it is assumed that
it reads back. -/
theorem parse_text {text : String} {set : ConditionSet Float} (success : parse text = .ok set)
    (printer : ∀ x ∈ set.bounds, x.isFinite = true → ReadsBack x) :
    ((∀ x ∈ set.bounds, x.isFinite = true) → parse set.text = .ok set) ∧
      ((∃ x ∈ set.bounds, x.isFinite = false) →
        ∃ fault, parse (α := Float) set.text = .error fault) := by
  have regular := isRegular_of_parse success
  constructor
  · intro finite
    exact parse_text_of_readsBack regular fun x member => printer x member (finite x member)
  · rintro ⟨x, member, notFinite⟩
    refine parse_text_refused regular ?_ ⟨x, member, Condition.refuses_bound notFinite⟩
    intro y inside
    cases finite : y.isFinite with
    | true => exact .inl (printer y inside finite)
    | false => exact .inr (Condition.refuses_bound finite)

/-- A score, a market under its general name, and an overflowing close. -/
theorem parse_text_sample :
    let finite : ConditionSet Float :=
      ⟨.any, [.numeric .score (.above 60.5), .category .market ["US", "HK"]]⟩
    let overflowing := String.ofList ("LT(close, ".toList ++ List.replicate 311 '9' ++ [')'])
    parse finite.text = .ok finite ∧
      ∃ set : ConditionSet Float, parse overflowing = .ok set ∧
        ∃ fault, parse (α := Float) set.text = .error fault := by
  intro finite overflowing
  constructor
  · have read : parse "ANY( GT(Score, 60.5), CATEGORY(market, US , HK))" = .ok finite :=
      eq_ok_of_toOption (by decide +kernel)
    have text : (Printed.text (60.5 : Float)).toList = sign false ++ "60.5".toList := by
      decide +kernel
    have magnitude : Magnitude ("60".toList ++ "5".toList) 1 "60.5".toList :=
      .pointed (by decide) (List.all_eq_true.mp (by decide))
    have number : Number ⟨false, 605, -1⟩ (Printed.text (60.5 : Float)).toList := by
      rw [text]
      exact .intro magnitude
    have back : ReadsBack (60.5 : Float) := ⟨_, number, by decide +kernel⟩
    refine (parse_text read ?_).1 ?_
    · intro x member _
      rw [List.mem_singleton.mp member]
      exact back
    · intro x member
      rw [List.mem_singleton.mp member]
      decide +kernel
  · let infinite : Float := 1.0 / 0.0
    have read : parse overflowing = .ok (.all [.numeric .close (.below infinite)]) := by
      rw [parse, mapError_eq_ok, String.toList_ofList]
      exact eq_ok_of_toOption (by decide +kernel)
    have notFinite : infinite.isFinite = false := by decide +kernel
    refine ⟨_, read, (parse_text read ?_).2 ⟨infinite, List.mem_singleton_self _, notFinite⟩⟩
    intro x member finite
    rw [List.mem_singleton.mp member, notFinite] at finite
    cases finite

end ConditionSet

end DailySignals
