import DailySignals.Proofs.Condition.Prefix

/-!
# Where reading conditions stops

Each form of a condition is a chain of tokens and lists, so it stops within a
condition with its keyword.  A set stops within a set, and a whole text at the end
of a set if anything but blanks stands behind it.
-/

set_option autoImplicit false

namespace DailySignals

open Text Scanner Grammar

/-! ## Conditions -/

namespace Condition

variable {α : Type}

theorem follows_readValues {kind : Category} :
    Follows (readValues (α := α) kind) (ListForm ValueItem (.category kind)) :=
  follows_listForm reads_value follows_value (Condition.category kind)

theorem follows_readTags :
    Follows (readTags (α := α)) (ListForm (Clause tagUses TagItem) fun clauses =>
      .tags (listedUnder .anyOf clauses) (listedUnder .allOf clauses)
        (listedUnder .noneOf clauses)) :=
  follows_listForm reads_tagClause follows_tagClause fun clauses =>
    Condition.tags (listedUnder TagUse.anyOf clauses) (listedUnder TagUse.allOf clauses)
      (listedUnder TagUse.noneOf clauses)

theorem follows_readSymbols :
    Follows (readSymbols (α := α)) (ListForm (Clause symbolUses ValueItem) fun clauses =>
      .symbols (listedUnder .admitted clauses) (listedUnder .refused clauses)) :=
  follows_listForm reads_symbolClause follows_symbolClause fun clauses =>
    Condition.symbols (listedUnder SymbolUse.admitted clauses)
      (listedUnder SymbolUse.refused clauses)

variable [Arithmetic α]

/-- The tokens behind the keyword of a condition. -/
def WrittenBehind (word : String) (condition : Condition α) (tokens : List Token) : Prop :=
  condition.WrittenAs (word.toList :: tokens)

theorem follows_readCategory : Follows (readCategory (α := α)) (WrittenBehind "CATEGORY") := by
  unfold readCategory
  refine Follows.mono ((follows_character '(').bind fun _ =>
    (follows_identifier "category field").bind fun name =>
    (follows_character ',').bind fun _ =>
    (follows_itemsInParentheses reads_value follows_value).bind fun values =>
    .done (category (Category.ofName name) values)) ?_
  rintro _ _ ⟨⟨rfl⟩, ⟨⟨isName, rfl⟩, ⟨⟨rfl⟩, ⟨⟨items, separated, rfl⟩, rfl, rfl⟩⟩⟩⟩
  rw [List.append_nil]
  exact .category isName separated

theorem follows_readField :
    Follows readField (Alone fun field token =>
      IsName token ∧ Field.ofName (String.ofList token) = field) := by
  refine .of_stopsAtOnce (StopsAtOnce.map (stopsAtOnce_identifier "field name") Field.ofName)
    ⟨_, _, .intro ⟨isName_letter, rfl⟩⟩ ?_
  intro text rest field success
  obtain ⟨name, isName, rfl, parts, _⟩ := readField_eq_ok_iff.mp success
  exact ⟨[name], rest, .intro ⟨isName, rfl⟩, begins_singleton parts, rfl⟩

theorem follows_readBound :
    Follows (readBound (α := α)) (Alone fun bound token =>
      ∃ decimal, Number decimal token ∧ Arithmetic.ofDecimal decimal = bound) := by
  obtain ⟨decimal, written⟩ := number_digit
  refine .of_stopsAtOnce (StopsAtOnce.map stopsAtOnce_number Arithmetic.ofDecimal)
    ⟨_, _, .intro ⟨decimal, written, rfl⟩⟩ ?_
  intro text rest bound success
  obtain ⟨decimal, token, number, same, parts⟩ := number_of_readBound success
  exact ⟨[token], rest, .intro ⟨decimal, number, same⟩, begins_singleton parts, rfl⟩

theorem follows_readComparison {word : String} {make : α → Comparison α}
    (member : (word, make) ∈ comparisons) : Follows (readComparison make) (WrittenBehind word) := by
  unfold readComparison
  refine Follows.mono ((follows_character '(').bind fun _ =>
    follows_readField.bind fun field =>
    (follows_character ',').bind fun _ =>
    follows_readBound.bind fun bound =>
    (follows_character ')').bind fun _ => .done (numeric field (make bound))) ?_
  rintro _ _ ⟨⟨rfl⟩, ⟨⟨isName, rfl⟩, ⟨⟨rfl⟩, ⟨⟨decimal, number, rfl⟩, ⟨⟨rfl⟩, rfl, rfl⟩⟩⟩⟩⟩
  exact .comparison member isName number

theorem follows_readBetween : Follows (readBetween (α := α)) (WrittenBehind "BETWEEN") := by
  unfold readBetween
  refine Follows.mono ((follows_character '(').bind fun _ =>
    follows_readField.bind fun field =>
    (follows_character ',').bind fun _ =>
    follows_readBound.bind fun least =>
    (follows_character ',').bind fun _ =>
    follows_readBound.bind fun greatest =>
    (follows_character ')').bind fun _ => .done (numeric field (.between least greatest))) ?_
  rintro _ _ ⟨⟨rfl⟩, ⟨⟨isName, rfl⟩, ⟨⟨rfl⟩, ⟨⟨low, lower, rfl⟩, ⟨⟨rfl⟩,
    ⟨⟨high, upper, rfl⟩, ⟨⟨rfl⟩, rfl, rfl⟩⟩⟩⟩⟩⟩⟩
  exact .between isName lower upper

/-- What a form reads behind its keyword, and where it stops, belongs to a condition. -/
theorem follows_form {word : String} {form : Step (Condition α)}
    (member : (word, form) ∈ forms (α := α)) : Follows form (WrittenBehind word) := by
  simp only [forms, List.mem_cons, Prod.mk.injEq, List.not_mem_nil, or_false] at member
  rcases member with ⟨rfl, rfl⟩ | ⟨rfl, rfl⟩ | ⟨rfl, rfl⟩ | ⟨rfl, rfl⟩ | ⟨rfl, rfl⟩ | ⟨rfl, rfl⟩ |
    ⟨rfl, rfl⟩ | ⟨rfl, rfl⟩ | ⟨rfl, rfl⟩ | ⟨rfl, rfl⟩
  · exact follows_readComparison (by simp [comparisons])
  · exact follows_readComparison (by simp [comparisons])
  · exact follows_readComparison (by simp [comparisons])
  · exact follows_readComparison (by simp [comparisons])
  · exact follows_readBetween
  · refine follows_readValues.mono ?_
    rintro _ _ ⟨separated⟩
    exact .market separated
  · refine follows_readValues.mono ?_
    rintro _ _ ⟨separated⟩
    exact .industry separated
  · exact follows_readCategory
  · refine follows_readTags.mono ?_
    rintro _ _ ⟨separated⟩
    exact .tags separated
  · refine follows_readSymbols.mono ?_
    rintro _ _ ⟨separated⟩
    exact .symbols separated

theorem exists_writtenAs : ∃ (condition : Condition α) (tokens : List Token),
    condition.WrittenAs tokens :=
  ⟨_, _, .market (.one (.intro isValue_letter))⟩

theorem follows_condition : Follows (item (α := α)).read WrittenAs where
  possible := exists_writtenAs
  sound := reads_condition.sound
  stops := by
    intro text refusal failed
    change read text = .error refusal at failed
    unfold read at failed
    simp only at failed
    split at failed
    · next form afterWord chosen =>
        obtain ⟨word, member, parts, _⟩ := (select_eq_some_iff areKeywords_forms).mp chosen
        exact ((follows_form member).stops failed).behind (begins_singleton parts) rfl
          fun _ written => written
    · obtain ⟨condition, tokens, written⟩ := exists_writtenAs (α := α)
      cases failed
      exact .here ⟨condition, written⟩

end Condition

/-! ## Sets -/

namespace ConditionSet

variable {α : Type} [Arithmetic α]

theorem follows_readGroup {word : String} {logic : Logic} (member : (word, logic) ∈ logics) :
    Follows (readGroup (α := α) logic) fun set tokens => set.WrittenAs (word.toList :: tokens) := by
  let conditions : Step (ConditionSet α) := fun text =>
    itemsInParentheses Condition.item text >>= fun found => pure (⟨logic, found.1⟩, found.2)
  have listed : Follows conditions
      (Followed (Listed Condition.WrittenAs [[')']]) fun conditions set tokens =>
        set = ⟨logic, conditions⟩ ∧ tokens = []) :=
    (follows_itemsInParentheses Condition.reads_condition Condition.follows_condition).bind
      fun conditions => .done (ConditionSet.mk logic conditions)
  unfold readGroup
  refine Follows.mono ((follows_character '(').bind fun _ =>
    listed.closing_or ⟨logic, []⟩ ?_ ?_) ?_
  · intro text rest closed
    simp only [closed]
    rfl
  · intro text opened
    simp only [opened]
    rfl
  · rintro _ _ ⟨⟨rfl⟩, ⟨rfl, rfl⟩ | ⟨⟨items, separated, rfl⟩, rfl, rfl⟩⟩
    · exact .empty member
    · rw [List.append_nil]
      exact .group member separated

theorem follows_set : Follows (read (α := α)) WrittenAs where
  possible := by
    obtain ⟨condition, tokens, written⟩ := Condition.exists_writtenAs (α := α)
    exact ⟨_, _, .bare written⟩
  sound := reads_set.sound
  stops := by
    intro text refusal failed
    unfold read at failed
    simp only at failed
    split at failed
    · next logic afterWord chosen =>
        obtain ⟨word, member, parts, _⟩ := (select_eq_some_iff (by decide)).mp chosen
        exact ((follows_readGroup member).stops failed).behind (begins_singleton parts) rfl
          fun _ written => written
    · rcases bind_eq_error.mp failed with failed | ⟨_, _, failed⟩
      · refine (Condition.follows_condition.stops failed).of_skipBlanks.mono ?_
        rintro tokens ⟨condition, written⟩
        exact ⟨_, .bare written⟩
      · cases failed

theorem readWhole_of_spells {set : ConditionSet α} {tokens : List Token}
    (written : set.WrittenAs tokens) {text : List Char} (spelled : Spells tokens text) :
    readWhole text = .ok set := by
  obtain ⟨after, begins, ended⟩ := (spells_iff written.solid).mp spelled
  have delimited : Delimited after := by
    intro c head
    rw [ended] at head
    cases head
  obtain ⟨rest, success, same⟩ := reads_set.complete written begins delimited
  exact readWhole_eq_ok_iff.mpr ⟨rest, success, same.trans ended⟩

/-- A text that is refused stops within a set, at its end if it goes on behind one. -/
theorem readWhole_stops {text : List Char} {refusal : Refusal}
    (failed : readWhole (α := α) text = .error refusal) :
    StopsIn (fun tokens => ∃ set : ConditionSet α, set.WrittenAs tokens) text refusal.unread := by
  rcases bind_eq_error.mp failed with failed | ⟨⟨set, rest⟩, success, failed⟩
  · exact follows_set.stops failed
  · simp only at failed
    split at failed
    · cases failed
    · cases failed
      obtain ⟨tokens, after, written, begins, same⟩ := reads_set.sound success
      refine ⟨tokens, [], after, ⟨set, ?_⟩, begins, same⟩
      rw [List.append_nil]
      exact written

theorem parse_recoverable {text : String} {fault : SyntaxFault}
    (failed : parse (α := α) text = .error fault) :
    Recoverable (fun text => ∃ set : ConditionSet α, parse text = .ok set) text fault.position := by
  obtain ⟨refusal, refused, rfl⟩ := mapError_eq_error.mp failed
  refine recoverable_of_stops ?_ (readWhole_stops refused)
  rintro tokens text ⟨set, written⟩ spelled
  refine ⟨set, ?_⟩
  rw [parse, mapError_eq_ok, String.toList_ofList]
  exact readWhole_of_spells written spelled

end ConditionSet

end DailySignals
