import Mathlib.Data.String.Basic
import DailySignals.Proofs.Condition.Acceptance

/-!
# Where reading stops

A step that refuses a text has come as far as a sentence of its grammar can come:
the tokens that it has taken are the start of one, and the text that it names as
unread stands right behind them, blanks aside.  The law holds of a token, is kept
when one step follows another, and goes over to lists by induction on their items.
From it follows what a reported position is worth.
-/

set_option autoImplicit false

namespace DailySignals

open Text Scanner Grammar

namespace Scanner

/-- Tokens in front of a text go on with those that the text begins with. -/
theorem Begins.join {first second : List Token} {text after rest final : List Char}
    (begins : Begins first text after) (same : skipBlanks after = skipBlanks rest)
    (further : Begins second rest final) :
    ∃ last, Begins (first ++ second) text last ∧ skipBlanks last = skipBlanks final := by
  by_cases nothing : second = []
  · subst nothing
    obtain rfl : rest = final := further
    rw [List.append_nil]
    exact ⟨after, begins, same⟩
  · exact ⟨final, begins_append_iff.mpr ⟨after, begins, further.of_skipBlanks_eq nothing same.symm⟩,
      rfl⟩

/-- A text of which all in front of the unread end is the start of a sentence. -/
def StopsIn (sentence : List Token → Prop) (text unread : List Char) : Prop :=
  ∃ tokens more after, sentence (tokens ++ more) ∧ Begins tokens text after ∧
    skipBlanks after = unread

namespace StopsIn

variable {sentence others : List Token → Prop} {text unread : List Char}

theorem here {tokens : List Token} (possible : sentence tokens) :
    StopsIn sentence text (skipBlanks text) :=
  ⟨[], tokens, text, possible, rfl, rfl⟩

theorem behind {first : List Token} {after rest : List Char} (begins : Begins first text after)
    (same : skipBlanks after = skipBlanks rest) (stops : StopsIn others rest unread)
    (joins : ∀ tokens, others tokens → sentence (first ++ tokens)) :
    StopsIn sentence text unread := by
  obtain ⟨tokens, more, final, possible, further, ended⟩ := stops
  obtain ⟨last, whole, sameEnd⟩ := begins.join same further
  refine ⟨first ++ tokens, more, last, ?_, whole, sameEnd.trans ended⟩
  rw [List.append_assoc]
  exact joins _ possible

theorem mono (stops : StopsIn others text unread)
    (widen : ∀ tokens, others tokens → sentence tokens) : StopsIn sentence text unread :=
  have nothing : Begins [] text text := rfl
  stops.behind nothing rfl widen

/-- What can be completed to one sentence can be completed to one that goes on with it. -/
theorem extend (stops : StopsIn others text unread)
    (goesOn : ∀ tokens, others tokens → ∃ rest, sentence (tokens ++ rest)) :
    StopsIn sentence text unread := by
  obtain ⟨tokens, more, after, possible, begins, ended⟩ := stops
  obtain ⟨rest, whole⟩ := goesOn _ possible
  rw [List.append_assoc] at whole
  exact ⟨tokens, more ++ rest, after, whole, begins, ended⟩

theorem of_skipBlanks (stops : StopsIn sentence (skipBlanks text) unread) :
    StopsIn sentence text unread :=
  have nothing : Begins [] text text := rfl
  stops.behind nothing (skipBlanks_skipBlanks text).symm fun _ => id

end StopsIn

theorem spells_flatten (tokens : List Token) : Spells tokens tokens.flatten := by
  induction tokens with
  | nil => exact .done nofun
  | cons token tokens ih =>
      have noBlanks : ∀ c ∈ ([] : List Char), isBlank c = true := nofun
      exact .next noBlanks ih

/-- What a text begins with is spelled by the start of the text, with any tokens put
behind it. -/
theorem Begins.spells {tokens : List Token} (more : List Token) {text after : List Char}
    (begins : Begins tokens text after) :
    ∃ before, text = before ++ skipBlanks after ∧
      Spells (tokens ++ more) (before ++ more.flatten) := by
  have blank : ∀ {text : List Char}, ∀ c ∈ text.takeWhile isBlank, isBlank c = true :=
    fun c member => List.mem_takeWhile_imp member
  have blanks_first : ∀ text : List Char, text = text.takeWhile isBlank ++ skipBlanks text :=
    fun _ => List.takeWhile_append_dropWhile.symm
  induction tokens generalizing text with
  | nil =>
      obtain rfl : text = after := begins
      refine ⟨text.takeWhile isBlank, blanks_first text, ?_⟩
      cases more with
      | nil =>
          refine .done ?_
          rw [List.flatten_nil, List.append_nil]
          exact blank
      | cons token more =>
          rw [List.flatten_cons, ← List.append_assoc]
          exact .next blank (spells_flatten more)
  | cons token tokens ih =>
      obtain ⟨between, parts, begins⟩ := begins
      obtain ⟨before, rfl, spelled⟩ := ih begins
      refine ⟨text.takeWhile isBlank ++ token ++ before, ?_, ?_⟩
      · rw [List.append_assoc, List.append_assoc, ← parts]
        exact blanks_first text
      · rw [List.append_assoc]
        exact .next blank spelled

/-- A step that reads what is written in some way, and stops within such a text
where it fails. -/
structure Follows {β : Type} (step : Step β) (Written : β → List Token → Prop) : Prop where
  possible : ∃ value tokens, Written value tokens
  sound {text rest : List Char} {value : β} : step text = .ok (value, rest) →
    ∃ tokens after, Written value tokens ∧ Begins tokens text after ∧
      skipBlanks after = skipBlanks rest
  stops {text : List Char} {refusal : Refusal} : step text = .error refusal →
    StopsIn (fun tokens => ∃ value, Written value tokens) text refusal.unread

/-- What is written behind something else, on whose value it may depend. -/
inductive Followed {β γ : Type} (One : β → List Token → Prop) (Two : β → γ → List Token → Prop) :
    γ → List Token → Prop
  | intro {value : β} {result : γ} {first second : List Token} (one : One value first)
      (two : Two value result second) : Followed One Two result (first ++ second)

namespace Follows

variable {β γ : Type}

theorem mono {step : Step β} {Written Wider : β → List Token → Prop}
    (follows : Follows step Written)
    (widen : ∀ {value : β} {tokens : List Token}, Written value tokens → Wider value tokens) :
    Follows step Wider where
  possible := by
    obtain ⟨value, tokens, written⟩ := follows.possible
    exact ⟨value, tokens, widen written⟩
  sound success := by
    obtain ⟨tokens, after, written, begins⟩ := follows.sound success
    exact ⟨tokens, after, widen written, begins⟩
  stops failed := by
    refine (follows.stops failed).mono ?_
    rintro tokens ⟨value, written⟩
    exact ⟨value, widen written⟩

theorem done (value : β) :
    Follows (fun text => pure (value, text)) fun result tokens =>
      result = value ∧ tokens = [] where
  possible := ⟨value, [], rfl, rfl⟩
  sound := by
    intro text rest result success
    obtain ⟨rfl, rfl⟩ := Prod.mk.inj (pure_eq_ok.mp success)
    exact ⟨[], text, ⟨rfl, rfl⟩, rfl, rfl⟩
  stops := nofun

/-- A step behind another one stops in the first, or behind what the first has read. -/
theorem bind {first : Step β} {next : β × List Char → Except Refusal (γ × List Char)}
    {One : β → List Token → Prop} {Two : β → γ → List Token → Prop} (head : Follows first One)
    (tail : ∀ value, Follows (fun text => next (value, text)) (Two value)) :
    Follows (fun text => first text >>= next) (Followed One Two) where
  possible := by
    obtain ⟨value, tokens, one⟩ := head.possible
    obtain ⟨result, others, two⟩ := (tail value).possible
    exact ⟨result, _, .intro one two⟩
  sound := by
    intro text rest result success
    obtain ⟨⟨value, between⟩, read, success⟩ := bind_eq_ok.mp success
    obtain ⟨tokens, after, one, begins, same⟩ := head.sound read
    obtain ⟨others, final, two, further, sameEnd⟩ := (tail value).sound success
    obtain ⟨last, whole, ended⟩ := begins.join same further
    exact ⟨_, last, .intro one two, whole, ended.trans sameEnd⟩
  stops := by
    intro text refusal failed
    rcases bind_eq_error.mp failed with failed | ⟨⟨value, between⟩, read, failed⟩
    · -- whatever the first step would have read can be followed by something
      refine (head.stops failed).extend ?_
      rintro tokens ⟨value, one⟩
      obtain ⟨result, others, two⟩ := (tail value).possible
      exact ⟨others, result, .intro one two⟩
    · obtain ⟨tokens, after, one, begins, same⟩ := head.sound read
      refine ((tail value).stops failed).behind begins same ?_
      rintro others ⟨result, two⟩
      exact ⟨result, .intro one two⟩

/-- A step that goes on only if no closing parenthesis comes next. -/
theorem closing_or {step other : Step β} {Other : β → List Token → Prop} (value : β)
    (follows : Follows other Other)
    (closed : ∀ {text rest : List Char}, closing? text = some rest →
      step text = .ok (value, rest))
    (opened : ∀ {text : List Char}, closing? text = none → step text = other text) :
    Follows step fun result tokens =>
      result = value ∧ tokens = [[')']] ∨ Other result tokens where
  possible := ⟨value, [[')']], .inl ⟨rfl, rfl⟩⟩
  sound := by
    intro text rest result success
    cases next : closing? text with
    | some final =>
        obtain ⟨rfl, rfl⟩ := Prod.mk.inj (Except.ok.inj ((closed next).symm.trans success))
        have begins := begins_mark_iff.mpr (closing_eq_some_iff.mp next)
        exact ⟨[[')']], final, .inl ⟨rfl, rfl⟩, begins, rfl⟩
    | none =>
        obtain ⟨tokens, after, written, begins⟩ := follows.sound ((opened next).symm.trans success)
        exact ⟨tokens, after, .inr written, begins⟩
  stops := by
    intro text refusal failed
    cases next : closing? text with
    | some final =>
        rw [closed next] at failed
        cases failed
    | none =>
        refine (follows.stops ((opened next).symm.trans failed)).mono ?_
        rintro tokens ⟨result, written⟩
        exact ⟨result, .inr written⟩

end Follows

/-! ## Tokens -/

/-- One token that stands for a value. -/
inductive Alone {β : Type} (Word : β → Token → Prop) : β → List Token → Prop
  | intro {value : β} {token : Token} (word : Word value token) : Alone Word value [token]

/-- A step that takes one token or none, and so stops at the place where it starts. -/
def StopsAtOnce {β : Type} (step : Step β) : Prop :=
  ∀ {text : List Char} {refusal : Refusal}, step text = .error refusal →
    refusal.unread = skipBlanks text

theorem StopsAtOnce.map {β γ : Type} {step : Step β} (stops : StopsAtOnce step) (f : β → γ) :
    StopsAtOnce fun text => do
      let (value, rest) ← step text
      return (f value, rest) := by
  intro text refusal failed
  rcases bind_eq_error.mp failed with failed | ⟨_, _, failed⟩
  · exact stops failed
  · cases failed

theorem Follows.of_stopsAtOnce {β : Type} {step : Step β} {Written : β → List Token → Prop}
    (stops : StopsAtOnce step) (possible : ∃ value tokens, Written value tokens)
    (sound : ∀ {text rest : List Char} {value : β}, step text = .ok (value, rest) →
      ∃ tokens after, Written value tokens ∧ Begins tokens text after ∧
        skipBlanks after = skipBlanks rest) : Follows step Written where
  possible := possible
  sound := sound
  stops := by
    intro text refusal failed
    obtain ⟨value, tokens, written⟩ := possible
    rw [stops failed]
    exact .here ⟨value, written⟩

theorem stopsAtOnce_character (mark : Char) : StopsAtOnce (character mark) := by
  intro text refusal failed
  unfold character at failed
  split at failed
  · next c rest found =>
      split at failed
      · cases failed
      · cases failed
        exact found.symm
  · next found =>
      cases failed
      exact found.symm

theorem stopsAtOnce_identifier (what : String) : StopsAtOnce (identifier what) := by
  intro text refusal failed
  unfold identifier at failed
  simp only at failed
  split at failed
  · cases failed
    rfl
  · cases failed

theorem stopsAtOnce_value : StopsAtOnce value := by
  intro text refusal failed
  unfold value at failed
  simp only at failed
  split at failed
  · cases failed
    rfl
  · cases failed

theorem stopsAtOnce_number : StopsAtOnce number := by
  intro text refusal failed
  unfold number at failed
  simp only at failed
  split at failed
  · cases failed
    rfl
  · split at failed
    · cases failed
    · cases failed
      rfl

theorem isName_letter : IsName ['x'] where
  nonempty := List.cons_ne_nil _ _
  chars := List.all_eq_true.mp (by decide)

theorem isValue_letter : IsValue ['x'] where
  nonempty := List.cons_ne_nil _ _
  chars := List.all_eq_true.mp (by decide)
  starts := by
    rintro c ⟨⟩
    decide
  ends := by
    rintro c ⟨⟩
    decide

theorem number_digit : ∃ decimal, Number decimal ['1'] := by
  have magnitude : Magnitude ['1'] 0 ['1'] :=
    .whole (by decide) (List.all_eq_true.mp (by decide))
  have number : Number _ (sign false ++ ['1']) := .intro magnitude
  exact ⟨_, number⟩

theorem follows_character (mark : Char) :
    Follows (character mark) (Alone fun _ token => token = [mark]) := by
  refine .of_stopsAtOnce (stopsAtOnce_character mark) ⟨(), _, .intro rfl⟩ ?_
  intro text rest value success
  exact ⟨_, rest, .intro rfl, begins_mark_iff.mpr (character_eq_ok_iff.mp success), rfl⟩

theorem follows_identifier (what : String) :
    Follows (identifier what)
      (Alone fun name token => IsName token ∧ String.ofList token = name) := by
  refine .of_stopsAtOnce (stopsAtOnce_identifier what) ⟨_, _, .intro ⟨isName_letter, rfl⟩⟩ ?_
  intro text rest name success
  obtain ⟨token, isName, rfl, parts, _⟩ := identifier_eq_ok_iff.mp success
  exact ⟨[token], rest, .intro ⟨isName, rfl⟩, begins_singleton parts, rfl⟩

theorem follows_number : Follows number (Alone Number) := by
  obtain ⟨decimal, written⟩ := number_digit
  refine .of_stopsAtOnce stopsAtOnce_number ⟨decimal, _, .intro written⟩ ?_
  intro text rest found success
  obtain ⟨token, number, parts⟩ := number_of_number success
  exact ⟨[token], rest, .intro number, begins_singleton parts, rfl⟩

theorem follows_value : Follows valueItem.read ValueItem :=
  .of_stopsAtOnce stopsAtOnce_value ⟨_, _, .intro isValue_letter⟩ reads_value.sound

theorem follows_tag : Follows tagItem.read TagItem :=
  .of_stopsAtOnce (StopsAtOnce.map (stopsAtOnce_identifier "tag") Tag.ofName)
    ⟨_, _, .intro isName_letter⟩ reads_tag.sound

/-! ## Lists -/

section Lists

variable {β : Type} {close : List Char → Option (List Char)} {item : Item β}
  {Written : β → List Token → Prop} {ending : List Token}

/-- The tokens of a closing mark: the closing parenthesis, or none at the end of the text. -/
def ClosesWith (close : List Char → Option (List Char)) (ending : List Token) : Prop :=
  ∀ {text rest : List Char}, close text = some rest →
    ∃ final, Begins ending text final ∧ skipBlanks final = skipBlanks rest

theorem closesWith_closing : ClosesWith closing? [[')']] :=
  fun found => ⟨_, begins_mark_iff.mpr (closing_eq_some_iff.mp found), rfl⟩

theorem closesWith_finished : ClosesWith finished? [] := by
  intro text rest found
  obtain ⟨ended, rfl⟩ := finished_eq_some_iff.mp found
  exact ⟨text, rfl, ended⟩

/-- A list with the mark that closes it. -/
def Listed (Written : β → List Token → Prop) (ending : List Token) (values : List β)
    (tokens : List Token) : Prop :=
  ∃ items, Separated Written values items ∧ tokens = items ++ ending

/-- What may stand behind an item: the closing mark, or a comma and a list. -/
inductive Continued (Written : β → List Token → Prop) (ending : List Token) : List Token → Prop
  | closed : Continued Written ending ending
  | comma {values : List β} {tokens : List Token} (listed : Listed Written ending values tokens) :
      Continued Written ending ([','] :: tokens)

theorem Continued.listed {value : β} {tokens others : List Token} (item : Written value tokens)
    (continued : Continued Written ending others) :
    ∃ values, Listed Written ending values (tokens ++ others) := by
  cases continued with
  | closed => exact ⟨_, tokens, .one item, rfl⟩
  | comma listed =>
      obtain ⟨items, separated, rfl⟩ := listed
      exact ⟨_, _, .more item separated, by simp⟩

/-- A reader that stops within an item stops within a list that ends with it. -/
theorem stops_of_item {text unread : List Char}
    (stops : StopsIn (fun tokens => ∃ value, Written value tokens) text unread) :
    StopsIn (fun tokens => ∃ values, Listed Written ending values tokens) text unread := by
  refine stops.extend ?_
  rintro tokens ⟨value, written⟩
  exact ⟨ending, Continued.closed.listed written⟩

theorem stops_of_comma {text afterComma unread : List Char} {value : Unit}
    (comma : character ',' text = .ok (value, afterComma))
    (stops : StopsIn (fun tokens => ∃ values, Listed Written ending values tokens) afterComma
      unread) : StopsIn (Continued Written ending) text unread := by
  refine stops.behind (begins_mark_iff.mpr (character_eq_ok_iff.mp comma)) rfl ?_
  rintro tokens ⟨values, listed⟩
  exact .comma listed

/-- Behind an item the reader of a list stops in front of the mark that it misses,
or in the list behind a comma. -/
theorem furtherItems_stops (follows : Follows item.read Written) (text : List Char) :
    ∀ {refusal : Refusal}, furtherItems close item text = .error refusal →
      StopsIn (Continued Written ending) text refusal.unread := by
  fun_induction furtherItems close item text with
  | case1 => rintro _ ⟨⟩
  | case2 text closed refusal comma =>
      rintro _ ⟨⟩
      rw [stopsAtOnce_character ',' comma]
      exact .here .closed
  | case3 text closed afterComma comma refusal failed =>
      rintro _ ⟨⟩
      exact stops_of_comma comma (stops_of_item (follows.stops failed))
  | case4 text closed afterComma comma value rest next refusal recurse ih =>
      rintro _ ⟨⟩
      obtain ⟨tokens, after, written, begins, same⟩ := follows.sound next
      refine stops_of_comma comma ((ih recurse).behind begins same ?_)
      exact fun others continued => continued.listed written
  | case5 => rintro _ ⟨⟩

theorem follows_itemsUntil (ends : IsEnd close) (closes : ClosesWith close ending)
    (reads : Reads item.read Written) (follows : Follows item.read Written) :
    Follows (itemsUntil close item) (Listed Written ending) where
  possible := by
    obtain ⟨value, tokens, written⟩ := follows.possible
    exact ⟨[value], _, tokens, .one written, rfl⟩
  sound := by
    intro text rest values success
    obtain ⟨items, after, separated, begins, ended⟩ := (itemsUntil_eq_ok_iff ends reads).mp success
    obtain ⟨final, closing, same⟩ := closes ended
    obtain ⟨last, whole, sameEnd⟩ := begins.join rfl closing
    exact ⟨_, last, ⟨items, separated, rfl⟩, whole, sameEnd.trans same⟩
  stops := by
    intro text refusal failed
    rcases bind_eq_error.mp failed with failed | ⟨⟨value, rest⟩, read, failed⟩
    · exact stops_of_item (follows.stops failed)
    · rcases bind_eq_error.mp failed with failed | ⟨_, _, failed⟩
      · obtain ⟨tokens, after, written, begins, same⟩ := follows.sound read
        have further : StopsIn (Continued Written ending) rest refusal.unread :=
          furtherItems_stops follows rest failed
        exact further.behind begins same fun others continued => continued.listed written
      · cases failed

theorem follows_itemsInParentheses (reads : Reads item.read Written)
    (follows : Follows item.read Written) :
    Follows (itemsInParentheses item) (Listed Written [[')']]) :=
  follows_itemsUntil isEnd_closing closesWith_closing reads follows

/-- The arguments of a form that is made of a list. -/
inductive ListForm {γ : Type} (Written : β → List Token → Prop) (make : List β → γ) :
    γ → List Token → Prop
  | intro {values : List β} {items : List Token} (separated : Separated Written values items) :
      ListForm Written make (make values) (['('] :: (items ++ [[')']]))

theorem follows_listForm {γ : Type} (reads : Reads item.read Written)
    (follows : Follows item.read Written) (make : List β → γ) :
    Follows (fun text => do
      let (_, text) ← character '(' text
      let (values, text) ← itemsInParentheses item text
      return (make values, text)) (ListForm Written make) := by
  refine Follows.mono ((follows_character '(').bind fun _ =>
    (follows_itemsInParentheses reads follows).bind fun values => .done (make values)) ?_
  rintro _ _ ⟨⟨rfl⟩, ⟨⟨items, separated, rfl⟩, rfl, rfl⟩⟩
  rw [List.append_nil]
  exact .intro separated

theorem follows_labelled {ρ : Type} {what : String} {labels : List (String × ρ)}
    (keywords : AreKeywords (labels.map (·.1))) (nonempty : labels ≠ [])
    (reads : Reads item.read Written) (follows : Follows item.read Written) :
    Follows (labelled what labels item) (Clause labels Written) where
  possible := by
    obtain ⟨⟨word, label⟩, member⟩ := List.exists_mem_of_ne_nil _ nonempty
    obtain ⟨value, tokens, written⟩ := follows.possible
    exact ⟨_, _, .intro member (.one written)⟩
  sound := (reads_labelled keywords reads).sound
  stops := by
    intro text refusal failed
    unfold labelled at failed
    simp only at failed
    split at failed
    · obtain ⟨⟨word, label⟩, member⟩ := List.exists_mem_of_ne_nil _ nonempty
      obtain ⟨value, tokens, written⟩ := follows.possible
      cases failed
      exact .here ⟨_, .intro member (.one written)⟩
    · next label afterWord chosen =>
        obtain ⟨word, member, parts, _⟩ := (select_eq_some_iff keywords).mp chosen
        have list := follows_listForm reads follows fun values => (label, values)
        refine (list.stops failed).behind (begins_singleton parts) rfl ?_
        rintro _ ⟨_, ⟨separated⟩⟩
        exact ⟨_, .intro member separated⟩

end Lists

theorem follows_tagClause : Follows tagClause.read (Clause tagUses TagItem) :=
  follows_labelled (by decide) (by decide) reads_tag follows_tag

theorem follows_symbolClause : Follows symbolClause.read (Clause symbolUses ValueItem) :=
  follows_labelled (by decide) (by decide) reads_value follows_value

/-! ## Places of mistakes -/

/-- A place in a text that is a boundary of its characters, up to which the text can
be completed to one that is accepted.  So no start of the text that cannot be
completed ends in front of the place, or at it. -/
structure Recoverable (accepted : String → Prop) (text : String) (position : Nat) : Prop where
  within : position ≤ text.utf8ByteSize
  boundary : String.Pos.Raw.IsValid text ⟨position⟩
  completed : ∃ before after completion, text = before ++ after ∧
    before.utf8ByteSize = position ∧ accepted (before ++ completion)
  notPast : ∀ start rest, text = start ++ rest →
    (∀ completion, ¬ accepted (start ++ completion)) → position < start.utf8ByteSize

theorem byteSize_append (before after : List Char) :
    Refusal.byteSize (before ++ after) = Refusal.byteSize before + Refusal.byteSize after := by
  induction before with
  | nil => simp [Refusal.byteSize]
  | cons c before ih =>
      unfold Refusal.byteSize at ih ⊢
      rw [List.cons_append, List.foldr_cons, List.foldr_cons, ih, Nat.add_assoc]

theorem byteSize_eq (text : List Char) :
    Refusal.byteSize text = (String.ofList text).utf8ByteSize := by
  rw [String.utf8ByteSize_ofList]
  induction text with
  | nil => rfl
  | cons c text ih =>
      rw [String.utf8Len_cons, ← ih, Nat.add_comm]
      rfl

theorem recoverable_of_completed {accepted : String → Prop} {before completion : String}
    (whole : accepted (before ++ completion)) (after : String) :
    Recoverable accepted (before ++ after) before.utf8ByteSize where
  within := by
    rw [String.utf8ByteSize_append]
    exact Nat.le_add_right _ _
  boundary := String.Pos.Raw.isValid_iff_exists_append.mpr ⟨before, after, rfl, rfl⟩
  completed := ⟨before, after, completion, rfl, rfl, whole⟩
  notPast := by
    intro start rest same hopeless
    by_contra past
    have parts := congrArg String.toList same
    rw [String.toList_append, String.toList_append, List.append_eq_append_iff] at parts
    rcases parts with ⟨more, longer, _⟩ | ⟨more, shorter, _⟩
    · have start_eq : start = before ++ String.ofList more := by
        rw [← String.toList_inj, String.toList_append, String.toList_ofList]
        exact longer
      rw [start_eq, String.utf8ByteSize_append] at past
      have nothing : String.ofList more = "" := String.utf8ByteSize_eq_zero_iff.mp (by omega)
      rw [nothing, String.append_empty] at start_eq
      rw [start_eq] at hopeless
      exact hopeless completion whole
    · have before_eq : before = start ++ String.ofList more := by
        rw [← String.toList_inj, String.toList_append, String.toList_ofList]
        exact shorter
      rw [before_eq, String.append_assoc] at whole
      exact hopeless _ whole

/-- A reader that accepts the sentences of a grammar, and stops within one where it
fails, reports such places. -/
theorem recoverable_of_stops {accepted : String → Prop} {sentence : List Token → Prop}
    (accepts : ∀ {tokens : List Token} {text : List Char}, sentence tokens → Spells tokens text →
      accepted (String.ofList text))
    {text : String} {refusal : Refusal} (stops : StopsIn sentence text.toList refusal.unread) :
    Recoverable accepted text (refusal.toFault text.toList).position := by
  obtain ⟨tokens, more, after, possible, begins, ended⟩ := stops
  obtain ⟨before, parts, spelled⟩ := begins.spells more
  rw [ended] at parts
  have whole := accepts possible spelled
  rw [String.ofList_append] at whole
  have text_eq : text = String.ofList before ++ String.ofList refusal.unread := by
    rw [← String.ofList_append, ← parts, String.ofList_toList]
  have position_eq : (refusal.toFault text.toList).position =
      (String.ofList before).utf8ByteSize := by
    unfold Refusal.toFault
    rw [parts, byteSize_append, ← byteSize_eq]
    exact Nat.add_sub_cancel _ _
  rw [position_eq, text_eq]
  exact recoverable_of_completed whole _

end Scanner

end DailySignals
