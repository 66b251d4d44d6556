import DailySignals.Proofs.Condition.Recognition

/-!
# The texts that are sets of conditions

The reader of a condition is the choice of a form by its keyword, and each form
reads the arguments that the grammar has for it.  So a text is accepted exactly
if it spells a set of conditions, and it is read as that set.
-/

set_option autoImplicit false

namespace DailySignals

open Text Scanner Grammar

namespace Grammar

/-- A token that can be told from the blanks in front of it. -/
def Solid (token : Token) : Prop :=
  ∃ c rest, token = c :: rest ∧ isBlank c = false

theorem IsName.solid {token : Token} (isName : IsName token) : Solid token := by
  obtain ⟨c, rest, rfl⟩ := List.exists_cons_of_ne_nil isName.nonempty
  exact ⟨c, rest, rfl, isBlank_of_isNameChar (isName.chars c (by simp))⟩

theorem IsValue.solid {token : Token} (isValue : IsValue token) : Solid token := by
  obtain ⟨c, rest, rfl⟩ := List.exists_cons_of_ne_nil isValue.nonempty
  exact ⟨c, rest, rfl, isValue.starts c rfl⟩

theorem Number.solid {decimal : Decimal} {token : Token} (number : Number decimal token) :
    Solid token := by
  obtain @⟨negative, digits, places, body, magnitude⟩ := number
  cases negative with
  | true => exact ⟨'-', body, rfl, by decide⟩
  | false =>
      obtain ⟨c, rest, rfl, digit | rfl⟩ := head_of_magnitude magnitude
      · exact ⟨c, rest, rfl, isBlank_of_isNameChar (isNameChar_of_isDigit digit)⟩
      · exact ⟨'.', rest, rfl, by decide⟩

theorem solid_mark {mark : Char} (notBlank : isBlank mark = false) : Solid [mark] :=
  ⟨mark, [], rfl, notBlank⟩

theorem solid_keyword {words : List String} (keywords : AreKeywords words)
    (nonempty : "" ∉ words) {word : String} (member : word ∈ words) : Solid word.toList := by
  refine IsName.solid ⟨?_, List.all_eq_true.mp (keywords.1 word member)⟩
  intro empty
  rw [String.toList_eq_nil_iff.mp empty] at member
  exact nonempty member

theorem solid_enclosed {word : String} {arguments : List Token} (wordSolid : Solid word.toList)
    (inside : ∀ token ∈ arguments, Solid token) :
    ∀ token ∈ enclosed word arguments, Solid token := by
  intro token member
  simp only [enclosed, List.mem_cons, List.mem_append, List.not_mem_nil, or_false] at member
  rcases member with rfl | rfl | member | rfl
  · exact wordSolid
  · exact solid_mark (by decide)
  · exact inside token member
  · exact solid_mark (by decide)

theorem Separated.solid {β : Type} {Item : β → List Token → Prop} {values : List β}
    {tokens : List Token} (items : Separated Item values tokens)
    (solid : ∀ {value : β} {tokens : List Token}, Item value tokens →
      ∀ token ∈ tokens, Solid token) : ∀ token ∈ tokens, Solid token := by
  induction items with
  | one item => exact solid item
  | more item _ ih =>
      intro token member
      rcases List.mem_append.mp member with member | member
      · exact solid item token member
      · rcases List.mem_cons.mp member with rfl | member
        · exact solid_mark (by decide)
        · exact ih token member

theorem ValueItem.solid {value : String} {tokens : List Token} (item : ValueItem value tokens) :
    ∀ token ∈ tokens, Solid token := by
  obtain @⟨token, isValue⟩ := item
  intro other member
  rw [List.mem_singleton.mp member]
  exact isValue.solid

theorem TagItem.solid {tag : Tag} {tokens : List Token} (item : TagItem tag tokens) :
    ∀ token ∈ tokens, Solid token := by
  obtain @⟨token, isName⟩ := item
  intro other member
  rw [List.mem_singleton.mp member]
  exact isName.solid

theorem Clause.solid {ρ β : Type} {labels : List (String × ρ)} {Item : β → List Token → Prop}
    (keywords : AreKeywords (labels.map (·.1))) (nonempty : "" ∉ labels.map (·.1))
    (solid : ∀ {value : β} {tokens : List Token}, Item value tokens →
      ∀ token ∈ tokens, Solid token)
    {clause : ρ × List β} {tokens : List Token} (written : Clause labels Item clause tokens) :
    ∀ token ∈ tokens, Solid token := by
  obtain ⟨member, items⟩ := written
  exact solid_enclosed (solid_keyword keywords nonempty (List.mem_map_of_mem member))
    (items.solid solid)

/-- Spelled tokens are those a text goes on with until only blanks are left. -/
theorem spells_iff {tokens : List Token} (solid : ∀ token ∈ tokens, Solid token)
    {text : List Char} :
    Spells tokens text ↔ ∃ after, Begins tokens text after ∧ skipBlanks after = [] := by
  induction tokens generalizing text with
  | nil =>
      constructor
      · rintro ⟨blank⟩
        exact ⟨text, rfl, List.dropWhile_eq_nil_iff.mpr blank⟩
      · rintro ⟨_, rfl, blank⟩
        exact .done (List.dropWhile_eq_nil_iff.mp blank)
  | cons token tokens ih =>
      have others := fun other member => solid other (List.mem_cons_of_mem _ member)
      constructor
      · rintro (_ | ⟨blank, spelled⟩)
        obtain ⟨after, begins, ended⟩ := (ih others).mp spelled
        obtain ⟨c, rest, rfl, notBlank⟩ := solid token List.mem_cons_self
        refine ⟨after, ⟨_, ?_, begins⟩, ended⟩
        rw [List.append_assoc, skipBlanks_append blank, skipBlanks, List.cons_append,
          List.dropWhile_cons_of_neg (by simp [notBlank])]
      · rintro ⟨after, ⟨between, parts, begins⟩, ended⟩
        have split_text : text = text.takeWhile isBlank ++ token ++ between := by
          rw [List.append_assoc, ← parts]
          exact List.takeWhile_append_dropWhile.symm
        rw [split_text]
        exact .next (fun c member => List.mem_takeWhile_imp member)
          ((ih others).mpr ⟨after, begins, ended⟩)

end Grammar

namespace Condition

/-! ## The forms of conditions -/

/-- The arguments of a form in parentheses. -/
abbrev Arguments (arguments : List Token) : List Char → List Char → Prop :=
  Begins (['('] :: (arguments ++ [[')']]))

section Forms

variable {α : Type}

/-- A form whose only argument is a list. -/
theorem listForm_eq_ok_iff {β γ : Type} {item : Item β} {Written : β → List Token → Prop}
    (reads : Reads item.read Written) (make : List β → γ) {text rest : List Char} {result : γ} :
    (do
      let (_, text) ← character '(' text
      let (values, text) ← itemsInParentheses item text
      return (make values, text)) = .ok (result, rest) ↔
      ∃ values tokens, Separated Written values tokens ∧ make values = result ∧
        Arguments tokens text rest := by
  constructor
  · intro success
    obtain ⟨afterOpen, opened, success⟩ := character_bind_eq_ok_iff.mp success
    obtain ⟨⟨values, final⟩, listed, success⟩ := bind_eq_ok.mp success
    obtain ⟨same, rfl⟩ := Prod.mk.inj (pure_eq_ok.mp success)
    obtain ⟨tokens, items, begins⟩ := (itemsInParentheses_eq_ok_iff reads).mp listed
    exact ⟨values, tokens, items, same, afterOpen, opened, begins⟩
  · rintro ⟨values, tokens, items, same, afterOpen, opened, begins⟩
    have listed := (itemsInParentheses_eq_ok_iff reads).mpr ⟨tokens, items, begins⟩
    refine character_bind_eq_ok_iff.mpr ⟨afterOpen, opened, ?_⟩
    refine bind_eq_ok.mpr ⟨_, listed, ?_⟩
    rw [← same]
    exact pure_eq_ok.mpr rfl

theorem readValues_eq_ok_iff {kind : Category} {text rest : List Char} {condition : Condition α} :
    readValues kind text = .ok (condition, rest) ↔
      ∃ values tokens, Separated ValueItem values tokens ∧ .category kind values = condition ∧
        Arguments tokens text rest :=
  listForm_eq_ok_iff reads_value (Condition.category kind)

theorem readTags_eq_ok_iff {text rest : List Char} {condition : Condition α} :
    readTags text = .ok (condition, rest) ↔
      ∃ clauses tokens, Separated (Clause tagUses TagItem) clauses tokens ∧
        .tags (listedUnder .anyOf clauses) (listedUnder .allOf clauses)
          (listedUnder .noneOf clauses) = condition ∧
        Arguments tokens text rest :=
  listForm_eq_ok_iff reads_tagClause fun clauses =>
    Condition.tags (listedUnder TagUse.anyOf clauses) (listedUnder TagUse.allOf clauses)
      (listedUnder TagUse.noneOf clauses)

theorem readSymbols_eq_ok_iff {text rest : List Char} {condition : Condition α} :
    readSymbols text = .ok (condition, rest) ↔
      ∃ clauses tokens, Separated (Clause symbolUses ValueItem) clauses tokens ∧
        .symbols (listedUnder .admitted clauses) (listedUnder .refused clauses) = condition ∧
        Arguments tokens text rest :=
  listForm_eq_ok_iff reads_symbolClause fun clauses =>
    Condition.symbols (listedUnder SymbolUse.admitted clauses)
      (listedUnder SymbolUse.refused clauses)

theorem readCategory_eq_ok_iff {text rest : List Char} {condition : Condition α} :
    readCategory text = .ok (condition, rest) ↔
      ∃ name values tokens, IsName name ∧ Separated ValueItem values tokens ∧
        .category (Category.ofName (String.ofList name)) values = condition ∧
        Arguments (name :: [','] :: tokens) text rest := by
  constructor
  · intro success
    obtain ⟨afterOpen, opened, success⟩ := character_bind_eq_ok_iff.mp success
    obtain ⟨⟨word, afterName⟩, named, success⟩ := bind_eq_ok.mp success
    obtain ⟨afterComma, comma, success⟩ := character_bind_eq_ok_iff.mp success
    obtain ⟨⟨values, final⟩, listed, success⟩ := bind_eq_ok.mp success
    obtain ⟨same, rfl⟩ := Prod.mk.inj (pure_eq_ok.mp success)
    obtain ⟨name, isName, rfl, nameParts, _⟩ := identifier_eq_ok_iff.mp named
    obtain ⟨tokens, items, begins⟩ := (itemsInParentheses_eq_ok_iff reads_value).mp listed
    exact ⟨name, values, tokens, isName, items, same, afterOpen, opened, afterName, nameParts,
      afterComma, comma, begins⟩
  · rintro ⟨name, values, tokens, isName, items, same, afterOpen, opened, afterName, nameParts,
      afterComma, comma, begins⟩
    have nameStops := (delimited_of_mark comma (by decide)).stops_name
    have named : identifier "category field" afterOpen = .ok (String.ofList name, afterName) :=
      identifier_eq_ok_iff.mpr ⟨name, isName, rfl, nameParts, nameStops⟩
    have listed : itemsInParentheses valueItem afterComma = .ok (values, rest) :=
      (itemsInParentheses_eq_ok_iff reads_value).mpr ⟨tokens, items, begins⟩
    refine character_bind_eq_ok_iff.mpr ⟨afterOpen, opened, ?_⟩
    refine bind_eq_ok.mpr ⟨_, named, ?_⟩
    refine character_bind_eq_ok_iff.mpr ⟨afterComma, comma, ?_⟩
    refine bind_eq_ok.mpr ⟨_, listed, ?_⟩
    rw [← same]
    exact pure_eq_ok.mpr rfl

end Forms

variable {α : Type} [Arithmetic α]

theorem readField_eq_ok_iff {text rest : List Char} {field : Field} :
    readField text = .ok (field, rest) ↔
      ∃ name, IsName name ∧ Field.ofName (String.ofList name) = field ∧
        skipBlanks text = name ++ rest ∧ Stops isNameChar rest := by
  unfold readField
  rw [bind_eq_ok]
  constructor
  · rintro ⟨⟨name, after⟩, named, success⟩
    obtain ⟨same, rfl⟩ := Prod.mk.inj (pure_eq_ok.mp success)
    obtain ⟨token, isName, rfl, parts⟩ := identifier_eq_ok_iff.mp named
    exact ⟨token, isName, same, parts⟩
  · rintro ⟨token, isName, same, parts⟩
    refine ⟨(String.ofList token, rest), ?_, ?_⟩
    · exact identifier_eq_ok_iff.mpr ⟨token, isName, rfl, parts⟩
    · rw [← same]
      exact pure_eq_ok.mpr rfl

theorem number_of_readBound {text rest : List Char} {bound : α}
    (success : readBound text = .ok (bound, rest)) :
    ∃ decimal token, Number decimal token ∧ Arithmetic.ofDecimal decimal = bound ∧
      skipBlanks text = token ++ rest := by
  obtain ⟨⟨decimal, after⟩, read, success⟩ := bind_eq_ok.mp success
  obtain ⟨same, rfl⟩ := Prod.mk.inj (pure_eq_ok.mp success)
  obtain ⟨token, number, parts⟩ := number_of_number read
  exact ⟨decimal, token, number, same, parts⟩

theorem readBound_of_number {decimal : Decimal} {token text after : List Char}
    (written : Number decimal token) (parts : skipBlanks text = token ++ after)
    (delimited : Delimited after) :
    readBound text = .ok ((Arithmetic.ofDecimal decimal : α), after) :=
  bind_eq_ok.mpr ⟨_, number_eq_ok_of_number written parts delimited, pure_eq_ok.mpr rfl⟩

theorem readComparison_eq_ok_iff {make : α → Comparison α} {text rest : List Char}
    {condition : Condition α} :
    readComparison make text = .ok (condition, rest) ↔
      ∃ name numeral decimal, IsName name ∧ Number decimal numeral ∧
        .numeric (Field.ofName (String.ofList name)) (make (Arithmetic.ofDecimal decimal)) =
          condition ∧
        Arguments [name, [','], numeral] text rest := by
  constructor
  · intro success
    obtain ⟨afterOpen, opened, success⟩ := character_bind_eq_ok_iff.mp success
    obtain ⟨⟨field, afterName⟩, named, success⟩ := bind_eq_ok.mp success
    obtain ⟨afterComma, comma, success⟩ := character_bind_eq_ok_iff.mp success
    obtain ⟨⟨bound, afterBound⟩, bounded, success⟩ := bind_eq_ok.mp success
    obtain ⟨afterClose, closed, success⟩ := character_bind_eq_ok_iff.mp success
    obtain ⟨same, rfl⟩ := Prod.mk.inj (pure_eq_ok.mp success)
    obtain ⟨name, isName, rfl, nameParts, _⟩ := readField_eq_ok_iff.mp named
    obtain ⟨decimal, numeral, number, rfl, numberParts⟩ := number_of_readBound bounded
    exact ⟨name, numeral, decimal, isName, number, same,
      afterOpen, opened, afterName, nameParts, afterComma, comma, afterBound, numberParts,
      afterClose, closed, rfl⟩
  · rintro ⟨name, numeral, decimal, isName, number, same, afterOpen, opened, afterName, nameParts,
      afterComma, comma, afterBound, numberParts, _, closed, rfl⟩
    have nameStops := (delimited_of_mark comma (by decide)).stops_name
    have boundEnds := delimited_of_mark closed (by decide)
    have named := readField_eq_ok_iff.mpr ⟨name, isName, rfl, nameParts, nameStops⟩
    have bounded := readBound_of_number (α := α) number numberParts boundEnds
    refine character_bind_eq_ok_iff.mpr ⟨afterOpen, opened, ?_⟩
    refine bind_eq_ok.mpr ⟨_, named, ?_⟩
    refine character_bind_eq_ok_iff.mpr ⟨afterComma, comma, ?_⟩
    refine bind_eq_ok.mpr ⟨_, bounded, ?_⟩
    refine character_bind_eq_ok_iff.mpr ⟨_, closed, ?_⟩
    rw [← same]
    exact pure_eq_ok.mpr rfl

theorem readBetween_eq_ok_iff {text rest : List Char} {condition : Condition α} :
    readBetween text = .ok (condition, rest) ↔
      ∃ name lower upper least greatest, IsName name ∧ Number least lower ∧
        Number greatest upper ∧
        .numeric (Field.ofName (String.ofList name))
          (.between (Arithmetic.ofDecimal least) (Arithmetic.ofDecimal greatest)) = condition ∧
        Arguments [name, [','], lower, [','], upper] text rest := by
  constructor
  · intro success
    obtain ⟨afterOpen, opened, success⟩ := character_bind_eq_ok_iff.mp success
    obtain ⟨⟨field, afterName⟩, named, success⟩ := bind_eq_ok.mp success
    obtain ⟨afterComma, comma, success⟩ := character_bind_eq_ok_iff.mp success
    obtain ⟨⟨low, afterLower⟩, lowRead, success⟩ := bind_eq_ok.mp success
    obtain ⟨afterSecond, second, success⟩ := character_bind_eq_ok_iff.mp success
    obtain ⟨⟨high, afterUpper⟩, highRead, success⟩ := bind_eq_ok.mp success
    obtain ⟨afterClose, closed, success⟩ := character_bind_eq_ok_iff.mp success
    obtain ⟨same, rfl⟩ := Prod.mk.inj (pure_eq_ok.mp success)
    obtain ⟨name, isName, rfl, nameParts, _⟩ := readField_eq_ok_iff.mp named
    obtain ⟨least, lower, lowerNumber, rfl, lowerParts⟩ := number_of_readBound lowRead
    obtain ⟨greatest, upper, upperNumber, rfl, upperParts⟩ := number_of_readBound highRead
    exact ⟨name, lower, upper, least, greatest, isName, lowerNumber, upperNumber, same,
      afterOpen, opened, afterName, nameParts, afterComma, comma, afterLower, lowerParts,
      afterSecond, second, afterUpper, upperParts, afterClose, closed, rfl⟩
  · rintro ⟨name, lower, upper, least, greatest, isName, lowerNumber, upperNumber, same,
      afterOpen, opened, afterName, nameParts, afterComma, comma, afterLower, lowerParts,
      afterSecond, second, afterUpper, upperParts, _, closed, rfl⟩
    have nameStops := (delimited_of_mark comma (by decide)).stops_name
    have lowerEnds := delimited_of_mark second (by decide)
    have upperEnds := delimited_of_mark closed (by decide)
    have named := readField_eq_ok_iff.mpr ⟨name, isName, rfl, nameParts, nameStops⟩
    have lowRead := readBound_of_number (α := α) lowerNumber lowerParts lowerEnds
    have highRead := readBound_of_number (α := α) upperNumber upperParts upperEnds
    refine character_bind_eq_ok_iff.mpr ⟨afterOpen, opened, ?_⟩
    refine bind_eq_ok.mpr ⟨_, named, ?_⟩
    refine character_bind_eq_ok_iff.mpr ⟨afterComma, comma, ?_⟩
    refine bind_eq_ok.mpr ⟨_, lowRead, ?_⟩
    refine character_bind_eq_ok_iff.mpr ⟨afterSecond, second, ?_⟩
    refine bind_eq_ok.mpr ⟨_, highRead, ?_⟩
    refine character_bind_eq_ok_iff.mpr ⟨_, closed, ?_⟩
    rw [← same]
    exact pure_eq_ok.mpr rfl

/-- The keywords of conditions. -/
def keywords : List String :=
  ["GTE", "GT", "LTE", "LT", "BETWEEN", "MARKET", "INDUSTRY", "CATEGORY", "TAGS", "SYMBOLS"]

theorem forms_keywords : (forms (α := α)).map (·.1) = keywords := rfl

theorem areKeywords_forms : AreKeywords ((forms (α := α)).map (·.1)) := by
  rw [forms_keywords]
  decide

theorem comparison_mem_forms {word : String} {make : α → Comparison α}
    (member : (word, make) ∈ comparisons) : (word, readComparison make) ∈ forms (α := α) := by
  simp only [comparisons, List.mem_cons, Prod.mk.injEq, List.not_mem_nil, or_false] at member
  rcases member with ⟨rfl, rfl⟩ | ⟨rfl, rfl⟩ | ⟨rfl, rfl⟩ | ⟨rfl, rfl⟩
  · simp [forms]
  · simp [forms]
  · simp [forms]
  · simp [forms]

theorem keyword_of_form {word : String} {form : Step (Condition α)}
    (member : (word, form) ∈ forms (α := α)) : word ∈ keywords := by
  rw [← forms_keywords (α := α)]
  exact List.mem_map_of_mem member

/-- What a form reads is written with the form's keyword. -/
theorem form_sound {word : String} {form : Step (Condition α)}
    (member : (word, form) ∈ forms (α := α)) {text rest : List Char} {condition : Condition α}
    (success : form text = .ok (condition, rest)) :
    ∃ arguments, condition.WrittenAs (enclosed word arguments) ∧
      Arguments arguments text rest := by
  have comparison : ∀ {make : α → Comparison α}, (word, make) ∈ comparisons →
      readComparison make text = .ok (condition, rest) →
        ∃ arguments, condition.WrittenAs (enclosed word arguments) ∧
          Arguments arguments text rest := by
    intro make member success
    obtain ⟨name, numeral, decimal, isName, number, rfl, begins⟩ :=
      readComparison_eq_ok_iff.mp success
    exact ⟨_, .comparison member isName number, begins⟩
  simp only [forms, List.mem_cons, Prod.mk.injEq, List.not_mem_nil, or_false] at member
  rcases member with ⟨rfl, rfl⟩ | ⟨rfl, rfl⟩ | ⟨rfl, rfl⟩ | ⟨rfl, rfl⟩ | ⟨rfl, rfl⟩ | ⟨rfl, rfl⟩ |
    ⟨rfl, rfl⟩ | ⟨rfl, rfl⟩ | ⟨rfl, rfl⟩ | ⟨rfl, rfl⟩
  · exact comparison (by simp [comparisons]) success
  · exact comparison (by simp [comparisons]) success
  · exact comparison (by simp [comparisons]) success
  · exact comparison (by simp [comparisons]) success
  · obtain ⟨name, lower, upper, least, greatest, isName, lowerNumber, upperNumber, rfl, begins⟩ :=
      readBetween_eq_ok_iff.mp success
    exact ⟨_, .between isName lowerNumber upperNumber, begins⟩
  · obtain ⟨values, tokens, items, rfl, begins⟩ := readValues_eq_ok_iff.mp success
    exact ⟨_, .market items, begins⟩
  · obtain ⟨values, tokens, items, rfl, begins⟩ := readValues_eq_ok_iff.mp success
    exact ⟨_, .industry items, begins⟩
  · obtain ⟨name, values, tokens, isName, items, rfl, begins⟩ :=
      readCategory_eq_ok_iff.mp success
    exact ⟨_, .category isName items, begins⟩
  · obtain ⟨clauses, tokens, items, rfl, begins⟩ := readTags_eq_ok_iff.mp success
    exact ⟨_, .tags items, begins⟩
  · obtain ⟨clauses, tokens, items, rfl, begins⟩ := readSymbols_eq_ok_iff.mp success
    exact ⟨_, .symbols items, begins⟩

/-- What is written is a keyword with arguments that its form reads. -/
theorem form_complete {condition : Condition α} {tokens : List Token}
    (written : condition.WrittenAs tokens) :
    ∃ word form arguments, tokens = enclosed word arguments ∧ (word, form) ∈ forms (α := α) ∧
      ∀ {text rest : List Char}, Arguments arguments text rest →
        form text = .ok (condition, rest) := by
  cases written with
  | @comparison word make name numeral decimal member isName number =>
      refine ⟨word, _, _, rfl, comparison_mem_forms member, ?_⟩
      intro text rest begins
      exact readComparison_eq_ok_iff.mpr ⟨name, numeral, decimal, isName, number, rfl, begins⟩
  | @between name lower upper least greatest isName lowerNumber upperNumber =>
      refine ⟨"BETWEEN", readBetween, _, rfl, by simp [forms], ?_⟩
      intro text rest begins
      exact readBetween_eq_ok_iff.mpr ⟨name, lower, upper, least, greatest, isName, lowerNumber,
        upperNumber, rfl, begins⟩
  | market listed =>
      refine ⟨"MARKET", readValues .market, _, rfl, by simp [forms], ?_⟩
      intro text rest begins
      exact readValues_eq_ok_iff.mpr ⟨_, _, listed, rfl, begins⟩
  | industry listed =>
      refine ⟨"INDUSTRY", readValues .industry, _, rfl, by simp [forms], ?_⟩
      intro text rest begins
      exact readValues_eq_ok_iff.mpr ⟨_, _, listed, rfl, begins⟩
  | @category name values tokens isName listed =>
      refine ⟨"CATEGORY", readCategory, _, rfl, by simp [forms], ?_⟩
      intro text rest begins
      exact readCategory_eq_ok_iff.mpr ⟨name, values, tokens, isName, listed, rfl, begins⟩
  | tags listed =>
      refine ⟨"TAGS", readTags, _, rfl, by simp [forms], ?_⟩
      intro text rest begins
      exact readTags_eq_ok_iff.mpr ⟨_, _, listed, rfl, begins⟩
  | symbols listed =>
      refine ⟨"SYMBOLS", readSymbols, _, rfl, by simp [forms], ?_⟩
      intro text rest begins
      exact readSymbols_eq_ok_iff.mpr ⟨_, _, listed, rfl, begins⟩

theorem WrittenAs.ne_nil {condition : Condition α} {tokens : List Token}
    (written : condition.WrittenAs tokens) : tokens ≠ [] := by
  obtain ⟨word, form, arguments, rfl, _⟩ := form_complete written
  nofun

theorem read_eq_form {word : String} {form : Step (Condition α)}
    (member : (word, form) ∈ forms (α := α)) {text afterWord : List Char}
    (parts : skipBlanks text = word.toList ++ afterWord) (stops : Stops isNameChar afterWord) :
    read text = form afterWord := by
  have chosen := (select_eq_some_iff areKeywords_forms).mpr ⟨word, member, parts, stops⟩
  unfold read
  simp only [chosen]

theorem reads_condition : Reads (item (α := α)).read WrittenAs where
  sound := by
    intro text rest condition success
    change read text = .ok (condition, rest) at success
    unfold read at success
    simp only at success
    split at success
    · next form afterWord chosen =>
        obtain ⟨word, member, parts, _⟩ := (select_eq_some_iff areKeywords_forms).mp chosen
        obtain ⟨arguments, written, begins⟩ := form_sound member success
        exact ⟨_, rest, written, ⟨afterWord, parts, begins⟩, rfl⟩
    · cases success
  complete := by
    intro condition tokens text after written begins _
    obtain ⟨word, form, arguments, rfl, member, success⟩ := form_complete written
    obtain ⟨afterWord, parts, begins⟩ := begins
    have chosen := read_eq_form member parts (stops_of_parenthesis begins)
    exact ⟨after, chosen.trans (success begins), rfl⟩

theorem WrittenAs.solid {condition : Condition α} {tokens : List Token}
    (written : condition.WrittenAs tokens) : ∀ token ∈ tokens, Solid token := by
  have word_solid : ∀ {word : String}, word ∈ keywords → Solid word.toList :=
    solid_keyword (by decide) (by decide)
  have comma : Solid [','] := solid_mark (by decide)
  cases written with
  | @comparison word make name numeral decimal member isName number =>
      apply solid_enclosed (word_solid (keyword_of_form (comparison_mem_forms member)))
      simp [isName.solid, comma, number.solid]
  | between isName lowerNumber upperNumber =>
      apply solid_enclosed (word_solid (by decide))
      simp [isName.solid, comma, lowerNumber.solid, upperNumber.solid]
  | market listed => exact solid_enclosed (word_solid (by decide)) (listed.solid ValueItem.solid)
  | industry listed => exact solid_enclosed (word_solid (by decide)) (listed.solid ValueItem.solid)
  | category isName listed =>
      apply solid_enclosed (word_solid (by decide))
      simpa [isName.solid, comma] using listed.solid ValueItem.solid
  | tags listed =>
      apply solid_enclosed (word_solid (by decide))
      exact listed.solid (Clause.solid (by decide) (by decide) TagItem.solid)
  | symbols listed =>
      apply solid_enclosed (word_solid (by decide))
      exact listed.solid (Clause.solid (by decide) (by decide) ValueItem.solid)

end Condition

namespace ConditionSet

variable {α : Type} [Arithmetic α]

theorem logic_not_condition : ∀ word ∈ logics.map (·.1), word ∉ Condition.keywords := by
  decide

/-- A condition does not start like a group. -/
theorem select_logics_eq_none {condition : Condition α} {tokens : List Token}
    (written : condition.WrittenAs tokens) {text after : List Char}
    (begins : Begins tokens text after) : select? logics (skipBlanks text) = none := by
  obtain ⟨word, form, arguments, rfl, member, _⟩ := Condition.form_complete written
  obtain ⟨afterWord, parts, begins⟩ := begins
  have known := Condition.keyword_of_form member
  rw [Option.eq_none_iff_forall_ne_some]
  rintro ⟨logic, afterLogic⟩ chosen
  obtain ⟨other, otherMember, otherParts, otherStops⟩ :=
    (select_eq_some_iff (by decide)).mp chosen
  have otherKnown : other ∈ logics.map (·.1) := List.mem_map_of_mem otherMember
  have all_keywords : AreKeywords (logics.map (·.1) ++ Condition.keywords) := by decide
  have same := (keyword_unique all_keywords (List.mem_append_left _ otherKnown)
    (List.mem_append_right _ known) (otherParts.symm.trans parts) otherStops
    (stops_of_parenthesis begins)).1
  rw [← same] at known
  exact logic_not_condition other otherKnown known

/-- No condition starts with a closing parenthesis. -/
theorem closing_eq_none {word : String} (known : word ∈ Condition.keywords)
    {text after : List Char} (parts : skipBlanks text = word.toList ++ after) :
    closing? text = none := by
  have not_mark : ∀ word ∈ Condition.keywords, word.toList.head?.isSome ∧
      word.toList.head? ≠ some ')' := by decide
  obtain ⟨nonempty, different⟩ := not_mark word known
  rw [Option.eq_none_iff_forall_ne_some]
  intro final closed
  rw [closing_eq_some_iff, parts] at closed
  cases spelled : word.toList with
  | nil =>
      rw [spelled] at nonempty
      cases nonempty
  | cons c others =>
      rw [spelled, List.cons_append, List.cons.injEq] at closed
      rw [spelled, List.head?_cons, closed.1] at different
      exact different rfl

theorem closing_eq_none_of_listed {conditions : List (Condition α)} {tokens : List Token}
    (listed : Separated Condition.WrittenAs conditions tokens) {text after : List Char}
    (begins : Begins tokens text after) : closing? text = none := by
  have head : ∃ condition own rest, Condition.WrittenAs (α := α) condition own ∧
      tokens = own ++ rest := by
    cases listed with
    | one item => exact ⟨_, tokens, [], item, (List.append_nil _).symm⟩
    | more item _ => exact ⟨_, _, _, item, rfl⟩
  obtain ⟨condition, own, rest, written, rfl⟩ := head
  obtain ⟨word, form, arguments, rfl, member, _⟩ := Condition.form_complete written
  obtain ⟨between, ⟨afterWord, parts, _⟩, _⟩ := begins_append_iff.mp begins
  exact closing_eq_none (Condition.keyword_of_form member) parts

theorem readGroup_eq_ok_iff {logic : Logic} {text rest : List Char} {set : ConditionSet α} :
    readGroup logic text = .ok (set, rest) ↔
      ∃ conditions tokens,
        (conditions = [] ∧ tokens = [] ∨ Separated Condition.WrittenAs conditions tokens) ∧
        ⟨logic, conditions⟩ = set ∧ Condition.Arguments tokens text rest := by
  constructor
  · intro success
    obtain ⟨afterOpen, opened, success⟩ := character_bind_eq_ok_iff.mp success
    simp only at success
    split at success
    · next final closed =>
        obtain ⟨same, rfl⟩ := Prod.mk.inj (pure_eq_ok.mp success)
        exact ⟨[], [], .inl ⟨rfl, rfl⟩, same, afterOpen, opened,
          final, closing_eq_some_iff.mp closed, rfl⟩
    · obtain ⟨⟨conditions, final⟩, listed, success⟩ := bind_eq_ok.mp success
      obtain ⟨same, rfl⟩ := Prod.mk.inj (pure_eq_ok.mp success)
      obtain ⟨tokens, items, begins⟩ :=
        (itemsInParentheses_eq_ok_iff Condition.reads_condition).mp listed
      exact ⟨conditions, tokens, .inr items, same, afterOpen, opened, begins⟩
  · rintro ⟨conditions, tokens, ⟨rfl, rfl⟩ | items, same, afterOpen, opened, begins⟩
    · refine character_bind_eq_ok_iff.mpr ⟨afterOpen, opened, ?_⟩
      obtain ⟨final, closed, rfl⟩ := begins
      simp only [closing_eq_some_iff.mpr closed, ← same]
      exact pure_eq_ok.mpr rfl
    · have listed := (itemsInParentheses_eq_ok_iff Condition.reads_condition).mpr
        ⟨tokens, items, begins⟩
      obtain ⟨between, listBegins, _⟩ := begins_append_iff.mp begins
      refine character_bind_eq_ok_iff.mpr ⟨afterOpen, opened, ?_⟩
      simp only [closing_eq_none_of_listed items listBegins, ← same]
      exact bind_eq_ok.mpr ⟨_, listed, pure_eq_ok.mpr rfl⟩

theorem read_eq_readGroup {word : String} {logic : Logic} (member : (word, logic) ∈ logics)
    {text afterWord : List Char} (parts : skipBlanks text = word.toList ++ afterWord)
    (stops : Stops isNameChar afterWord) : read (α := α) text = readGroup logic afterWord := by
  have chosen := (select_eq_some_iff (by decide)).mpr ⟨word, member, parts, stops⟩
  unfold read
  simp only [chosen]

theorem reads_set : Reads (read (α := α)) WrittenAs where
  sound := by
    intro text rest set success
    unfold read at success
    simp only at success
    split at success
    · next logic afterWord chosen =>
        obtain ⟨word, member, parts, _⟩ := (select_eq_some_iff (by decide)).mp chosen
        obtain ⟨conditions, tokens, items, rfl, begins⟩ := readGroup_eq_ok_iff.mp success
        refine ⟨enclosed word tokens, rest, ?_, ⟨afterWord, parts, begins⟩, rfl⟩
        rcases items with ⟨rfl, rfl⟩ | listed
        · exact .empty member
        · exact .group member listed
    · obtain ⟨⟨condition, final⟩, found, success⟩ := bind_eq_ok.mp success
      obtain ⟨rfl, rfl⟩ := Prod.mk.inj (pure_eq_ok.mp success)
      obtain ⟨tokens, after, written, begins, same⟩ := Condition.reads_condition.sound found
      exact ⟨tokens, after, .bare written,
        begins.of_skipBlanks_eq written.ne_nil (skipBlanks_skipBlanks text), same⟩
  complete := by
    have group : ∀ {word : String} {logic : Logic} {conditions : List (Condition α)}
        {tokens : List Token} {text after : List Char}, (word, logic) ∈ logics →
        (conditions = [] ∧ tokens = [] ∨ Separated Condition.WrittenAs conditions tokens) →
        Begins (enclosed word tokens) text after →
          read text = .ok (⟨logic, conditions⟩, after) := by
      intro word logic conditions tokens text after member items begins
      obtain ⟨afterWord, parts, begins⟩ := begins
      have chosen := read_eq_readGroup (α := α) member parts (stops_of_parenthesis begins)
      exact chosen.trans (readGroup_eq_ok_iff.mpr ⟨conditions, tokens, items, rfl, begins⟩)
    intro set tokens text after written begins delimited
    cases written with
    | empty member => exact ⟨after, group member (.inl ⟨rfl, rfl⟩) begins, rfl⟩
    | group member listed => exact ⟨after, group member (.inr listed) begins, rfl⟩
    | bare written =>
        have notGroup := select_logics_eq_none written begins
        have skipped := begins.of_skipBlanks_eq written.ne_nil (skipBlanks_skipBlanks text).symm
        obtain ⟨rest, found, same⟩ :=
          Condition.reads_condition.complete written skipped delimited
        refine ⟨rest, ?_, same⟩
        unfold read
        simp only [notGroup]
        exact bind_eq_ok.mpr ⟨_, found, pure_eq_ok.mpr rfl⟩

omit [Arithmetic α] in
theorem solid_logic {word : String} {logic : Logic} (member : (word, logic) ∈ logics) :
    Solid word.toList := by
  have known : word ∈ logics.map (·.1) := List.mem_map_of_mem member
  exact solid_keyword (by decide) (by decide) known

theorem WrittenAs.solid {set : ConditionSet α} {tokens : List Token}
    (written : set.WrittenAs tokens) : ∀ token ∈ tokens, Solid token := by
  cases written with
  | empty member => exact solid_enclosed (solid_logic member) (by simp)
  | group member listed =>
      exact solid_enclosed (solid_logic member) (listed.solid Condition.WrittenAs.solid)
  | bare written => exact written.solid

theorem readWhole_eq_ok_iff {text : List Char} {set : ConditionSet α} :
    readWhole text = .ok set ↔ ∃ rest, read text = .ok (set, rest) ∧ skipBlanks rest = [] := by
  unfold readWhole
  rw [bind_eq_ok]
  constructor
  · rintro ⟨⟨found, rest⟩, success, ended⟩
    simp only at ended
    split at ended
    · next final finished =>
        obtain rfl := pure_eq_ok.mp ended
        exact ⟨rest, success, (finished_eq_some_iff.mp finished).1⟩
    · cases ended
  · rintro ⟨rest, success, ended⟩
    refine ⟨(set, rest), success, ?_⟩
    simp only [finished_eq_some_iff.mpr ⟨ended, rfl⟩]
    exact pure_eq_ok.mpr rfl

/-- A text is read as a set exactly if it spells that set. -/
theorem parse_eq_ok_iff (text : String) (set : ConditionSet α) :
    parse text = .ok set ↔ ∃ tokens, set.WrittenAs tokens ∧ Spells tokens text.toList := by
  unfold parse
  rw [mapError_eq_ok, readWhole_eq_ok_iff]
  constructor
  · rintro ⟨rest, success, ended⟩
    obtain ⟨tokens, after, written, begins, same⟩ := reads_set.sound success
    exact ⟨tokens, written, (spells_iff written.solid).mpr ⟨after, begins, same.trans ended⟩⟩
  · rintro ⟨tokens, written, spelled⟩
    obtain ⟨after, begins, ended⟩ := (spells_iff written.solid).mp spelled
    have delimited : Delimited after := by
      rw [Delimited, ended]
      nofun
    obtain ⟨rest, success, same⟩ := reads_set.complete written begins delimited
    exact ⟨rest, success, same.trans ended⟩

end ConditionSet

end DailySignals
