import DailySignals.Proofs.Condition.Lexeme

/-!
# Reading recognises the grammar

Each step of the reader is held against the tokens that the grammar allows in
its place: what it reads was written so (`Reads.sound`), and whatever is written
so is read back, if the text then ends or goes on with a mark (`Reads.complete`).
A step may leave blanks or pass over them; the next one does not see the
difference.
-/

set_option autoImplicit false

namespace DailySignals

namespace Scanner

open Text Grammar

/-- A text that goes on with tokens, blanks in front of each, and then with the rest. -/
def Begins : List Token → List Char → List Char → Prop
  | [], text, rest => text = rest
  | token :: tokens, text, rest =>
      ∃ after, skipBlanks text = token ++ after ∧ Begins tokens after rest

theorem begins_append_iff {first second : List Token} {text rest : List Char} :
    Begins (first ++ second) text rest ↔
      ∃ after, Begins first text after ∧ Begins second after rest := by
  induction first generalizing text with
  | nil => simp [Begins]
  | cons token first ih =>
      simp only [List.cons_append, Begins, ih]
      constructor
      · rintro ⟨between, parts, after, one, two⟩
        exact ⟨after, ⟨between, parts, one⟩, two⟩
      · rintro ⟨after, ⟨between, parts, one⟩, two⟩
        exact ⟨between, parts, after, one, two⟩

theorem Begins.of_skipBlanks_eq {tokens : List Token} {text other rest : List Char}
    (begins : Begins tokens text rest) (nonempty : tokens ≠ [])
    (same : skipBlanks text = skipBlanks other) : Begins tokens other rest := by
  cases tokens with
  | nil => exact absurd rfl nonempty
  | cons token tokens =>
      obtain ⟨after, parts, others⟩ := begins
      exact ⟨after, same.symm.trans parts, others⟩

theorem begins_mark_iff {mark : Char} {text rest : List Char} :
    Begins [[mark]] text rest ↔ skipBlanks text = mark :: rest := by
  simp [Begins]

theorem begins_singleton {token : Token} {text after : List Char}
    (parts : skipBlanks text = token ++ after) : Begins [token] text after :=
  ⟨after, parts, rfl⟩

/-- A text that goes on with tokens whatever stands behind it. -/
def Renders (tokens : List Token) (text : List Char) : Prop :=
  ∀ rest, Begins tokens (text ++ rest) rest

theorem Renders.append {first second : List Token} {text other : List Char}
    (one : Renders first text) (two : Renders second other) :
    Renders (first ++ second) (text ++ other) := by
  intro rest
  rw [List.append_assoc]
  exact begins_append_iff.mpr ⟨_, one _, two rest⟩

theorem Renders.blanks {tokens : List Token} {blanks text : List Char}
    (renders : Renders tokens text) (nonempty : tokens ≠ [])
    (blank : ∀ c ∈ blanks, isBlank c = true) : Renders tokens (blanks ++ text) := by
  intro rest
  rw [List.append_assoc]
  exact (renders rest).of_skipBlanks_eq nonempty (skipBlanks_append blank _).symm

/-- A step reads back whatever is written in some way. -/
def Accepts {β : Type} (step : Step β) (Written : β → List Token → Prop) : Prop :=
  ∀ {value : β} {tokens : List Token} {text after : List Char},
    Written value tokens → Begins tokens text after → Delimited after →
      ∃ rest, step text = .ok (value, rest) ∧ skipBlanks rest = skipBlanks after

/-- A step reads what is written in some way, and nothing else. -/
structure Reads {β : Type} (step : Step β) (Written : β → List Token → Prop) : Prop where
  sound {text rest : List Char} {value : β} : step text = .ok (value, rest) →
    ∃ tokens after, Written value tokens ∧ Begins tokens text after ∧
      skipBlanks after = skipBlanks rest
  complete : Accepts step Written

theorem reads_value : Reads valueItem.read ValueItem where
  sound := by
    intro text rest found success
    obtain ⟨token, after, isValue, rfl, parts, same⟩ := isValue_of_value success
    exact ⟨_, after, .intro isValue, begins_singleton parts, same⟩
  complete := by
    rintro _ _ text after ⟨isValue⟩ ⟨_, parts, rfl⟩ delimited
    exact ⟨_, value_eq_ok_of_isValue isValue parts delimited, skipBlanks_skipBlanks _⟩

theorem tag_eq_ok_iff {text rest : List Char} {found : Tag} :
    tag text = .ok (found, rest) ↔
      ∃ name, identifier "tag" text = .ok (name, rest) ∧ Tag.ofName name = found := by
  unfold tag
  rw [bind_eq_ok]
  constructor
  · rintro ⟨⟨name, after⟩, named, success⟩
    obtain ⟨same, rest_eq⟩ := Prod.mk.inj (pure_eq_ok.mp success)
    rw [rest_eq] at named
    exact ⟨name, named, same⟩
  · rintro ⟨name, named, same⟩
    refine ⟨(name, rest), named, ?_⟩
    rw [← same]
    exact pure_eq_ok.mpr rfl

theorem reads_tag : Reads tagItem.read TagItem where
  sound := by
    intro text rest found success
    obtain ⟨name, named, same⟩ := tag_eq_ok_iff.mp success
    obtain ⟨token, isName, spelled, parts, _⟩ := identifier_eq_ok_iff.mp named
    refine ⟨[token], rest, ?_, begins_singleton parts, rfl⟩
    rw [← same, spelled]
    exact .intro isName
  complete := by
    intro found tokens text after written begins delimited
    obtain @⟨token, isName⟩ := written
    obtain ⟨_, parts, rfl⟩ := begins
    have named : identifier "tag" text = .ok (String.ofList token, _) :=
      identifier_eq_ok_iff.mpr ⟨token, isName, rfl, parts, delimited.stops_name⟩
    exact ⟨_, tag_eq_ok_iff.mpr ⟨_, named, rfl⟩, rfl⟩

/-! ## Lists -/

/-- A closing mark, in front of which the last item ends. -/
structure IsEnd (close : List Char → Option (List Char)) : Prop where
  blind {text other : List Char} : skipBlanks text = skipBlanks other → close text = close other
  comma {text rest : List Char} : skipBlanks text = ',' :: rest → close text = none
  delimited {text rest : List Char} : close text = some rest → Delimited text

theorem isEnd_closing : IsEnd closing? where
  blind same := by rw [closing?, closing?, same]
  comma next := by
    rw [closing?, next]
    rfl
  delimited closed := delimited_of_mark (closing_eq_some_iff.mp closed) (by decide)

theorem isEnd_finished : IsEnd finished? where
  blind same := by rw [finished?, finished?, same]
  comma next := by
    rw [finished?, next]
  delimited closed := by
    intro c head
    rw [(finished_eq_some_iff.mp closed).1] at head
    cases head

section Lists

variable {β : Type} {close : List Char → Option (List Char)} {item : Item β}
  {Written : β → List Token → Prop}

theorem furtherItems_of_close {text rest : List Char} (closed : close text = some rest) :
    furtherItems close item text = .ok ([], rest) := by
  rw [furtherItems, closed]

theorem furtherItems_of_comma {text afterComma : List Char} (ends : IsEnd close)
    (comma : skipBlanks text = ',' :: afterComma) :
    furtherItems close item text = itemsUntil close item afterComma := by
  have read_comma := character_of_mark comma
  rw [furtherItems, ends.comma comma]
  unfold itemsUntil
  simp only
  split
  · next refused =>
      rw [read_comma] at refused
      cases refused
  · next found =>
      rw [read_comma] at found
      cases found
      cases item.read afterComma with
      | error refusal => rfl
      | ok first =>
          simp only [bind, Except.bind]
          cases furtherItems close item first.2 with
          | error refusal => rfl
          | ok others => rfl

/-- What stands behind an item: the closing mark, or a comma and more items. -/
inductive Continues (close : List Char → Option (List Char)) (Written : β → List Token → Prop) :
    List β → List Char → List Char → Prop
  | closed {text rest : List Char} (ended : close text = some rest) :
      Continues close Written [] text rest
  | comma {values : List β} {tokens : List Token} {text after rest : List Char}
      (items : Separated Written values tokens) (begins : Begins ([','] :: tokens) text after)
      (ended : close after = some rest) : Continues close Written values text rest

theorem Continues.separated (ends : IsEnd close) (reads : Reads item.read Written)
    {text afterItem rest : List Char} {value : β} {values : List β}
    (read : item.read text = .ok (value, afterItem))
    (continues : Continues close Written values afterItem rest) :
    ∃ tokens after, Separated Written (value :: values) tokens ∧ Begins tokens text after ∧
      close after = some rest := by
  obtain ⟨tokens, between, written, begins, same⟩ := reads.sound read
  cases continues with
  | closed ended => exact ⟨tokens, between, .one written, begins, ends.blind same ▸ ended⟩
  | comma items others ended =>
      refine ⟨_, _, .more written items, begins_append_iff.mpr ⟨between, begins, ?_⟩, ended⟩
      exact others.of_skipBlanks_eq (List.cons_ne_nil _ _) same.symm

theorem furtherItems_continues (ends : IsEnd close) (reads : Reads item.read Written)
    (text : List Char) : ∀ {values : List β} {rest : List Char},
      furtherItems close item text = .ok (values, rest) →
        Continues close Written values text rest := by
  fun_induction furtherItems close item text with
  | case1 text rest found =>
      rintro _ _ ⟨⟩
      exact .closed found
  | case2 => rintro _ _ ⟨⟩
  | case3 => rintro _ _ ⟨⟩
  | case4 => rintro _ _ ⟨⟩
  | case5 text closed afterComma comma value rest next values tail recurse ih =>
      rintro _ _ ⟨⟩
      obtain ⟨tokens, after, items, begins, ended⟩ := (ih recurse).separated ends reads next
      refine .comma items ⟨afterComma, ?_, begins⟩ ended
      exact character_eq_ok_iff.mp comma

theorem itemsUntil_of_separated (ends : IsEnd close) (accepts : Accepts item.read Written)
    {values : List β} {tokens : List Token} (items : Separated Written values tokens) :
    ∀ {text after rest : List Char}, Begins tokens text after → close after = some rest →
      itemsUntil close item text = .ok (values, rest) := by
  induction items with
  | one written =>
      intro text after rest begins ended
      obtain ⟨afterItem, read, same⟩ := accepts written begins (ends.delimited ended)
      have closed : close afterItem = some rest := ends.blind same ▸ ended
      exact bind_eq_ok.mpr ⟨_, read, bind_eq_ok.mpr ⟨_, furtherItems_of_close closed, rfl⟩⟩
  | more written items ih =>
      intro text after rest begins ended
      obtain ⟨between, first, next, comma, others⟩ := begins_append_iff.mp begins
      obtain ⟨afterItem, read, same⟩ :=
        accepts written first (delimited_of_mark comma (by decide))
      have listed := (furtherItems_of_comma ends (same.trans comma)).trans (ih others ended)
      exact bind_eq_ok.mpr ⟨_, read, bind_eq_ok.mpr ⟨_, listed, rfl⟩⟩

theorem itemsUntil_eq_ok_iff (ends : IsEnd close) (reads : Reads item.read Written)
    {text rest : List Char} {values : List β} :
    itemsUntil close item text = .ok (values, rest) ↔
      ∃ tokens after, Separated Written values tokens ∧ Begins tokens text after ∧
        close after = some rest := by
  constructor
  · intro success
    obtain ⟨⟨value, afterItem⟩, read, success⟩ := bind_eq_ok.mp success
    obtain ⟨⟨others, final⟩, further, success⟩ := bind_eq_ok.mp success
    cases pure_eq_ok.mp success
    exact (furtherItems_continues ends reads _ further).separated ends reads read
  · rintro ⟨tokens, after, items, begins, ended⟩
    exact itemsUntil_of_separated ends reads.complete items begins ended

theorem itemsInParentheses_eq_ok_iff (reads : Reads item.read Written)
    {text rest : List Char} {values : List β} :
    itemsInParentheses item text = .ok (values, rest) ↔
      ∃ tokens, Separated Written values tokens ∧ Begins (tokens ++ [[')']]) text rest := by
  rw [itemsInParentheses, itemsUntil_eq_ok_iff isEnd_closing reads]
  simp only [begins_append_iff, begins_mark_iff, closing_eq_some_iff]
  constructor
  · rintro ⟨tokens, after, items, begins, ended⟩
    exact ⟨tokens, items, after, begins, ended⟩
  · rintro ⟨tokens, items, after, begins, ended⟩
    exact ⟨tokens, after, items, begins, ended⟩

/-- A keyword in front of an opening parenthesis is the whole word there. -/
theorem stops_of_parenthesis {arguments : List Token} {text rest : List Char}
    (begins : Begins (['('] :: arguments) text rest) : Stops isNameChar text := by
  obtain ⟨after, next, _⟩ := begins
  exact (delimited_of_mark next (by decide)).stops_name

theorem reads_labelled {ρ : Type} {what : String} {labels : List (String × ρ)}
    (keywords : AreKeywords (labels.map (·.1))) (reads : Reads item.read Written) :
    Reads (labelled what labels item) (Clause labels Written) where
  sound := by
    intro text rest clause success
    unfold labelled at success
    simp only at success
    split at success
    · cases success
    · next label afterWord chosen =>
        obtain ⟨word, member, parts, _⟩ := (select_eq_some_iff keywords).mp chosen
        obtain ⟨⟨_, afterOpen⟩, opened, success⟩ := bind_eq_ok.mp success
        obtain ⟨⟨values, final⟩, listed, success⟩ := bind_eq_ok.mp success
        cases pure_eq_ok.mp success
        obtain ⟨tokens, items, begins⟩ := (itemsInParentheses_eq_ok_iff reads).mp listed
        exact ⟨_, _, .intro member items,
          ⟨_, parts, _, character_eq_ok_iff.mp opened, begins⟩, rfl⟩
  complete := by
    rintro _ _ text rest ⟨member, items⟩ ⟨afterWord, parts, begins⟩ _
    have chosen := (select_eq_some_iff keywords).mpr
      ⟨_, member, parts, stops_of_parenthesis begins⟩
    obtain ⟨afterOpen, opened, listed⟩ := begins
    have read_open : character '(' afterWord = .ok ((), afterOpen) := character_of_mark opened
    have read_items := (itemsInParentheses_eq_ok_iff reads).mpr ⟨_, items, listed⟩
    refine ⟨rest, ?_, rfl⟩
    unfold labelled
    simp only [chosen]
    exact bind_eq_ok.mpr ⟨_, read_open, bind_eq_ok.mpr ⟨_, read_items, rfl⟩⟩

end Lists

theorem reads_tagClause : Reads tagClause.read (Clause tagUses TagItem) :=
  reads_labelled (by decide) reads_tag

theorem reads_symbolClause : Reads symbolClause.read (Clause symbolUses ValueItem) :=
  reads_labelled (by decide) reads_value

end Scanner

end DailySignals
