import Mathlib.Data.List.DropRight
import Mathlib.Data.List.TakeWhile
import DailySignals.Proofs.Condition.Grammar

/-!
# Words and marks at the head of a text

Every token of a condition is a mark, that is a comma or a parenthesis, or a run
of other characters that a mark ends.  Blanks are no part of a name or a number,
and of a value only inside.  So what the scanner takes off a text in front of a
mark is determined: a token reads back from any text that goes on with it.
-/

set_option autoImplicit false

namespace DailySignals

namespace Text

theorem ranges_apart : ∀ blank ∈ blankRanges, ∀ range ∈ alphanumericRanges,
    blank.2 < range.1 ∨ range.2 < blank.1 := by
  decide +kernel

theorem ascii_blanks : ∀ n < 128, isBlank (Char.ofNat n) = true →
    (Char.ofNat n).isAlphanum = false := by
  decide +kernel

theorem isNameChar_of_isBlank {c : Char} (blank : isBlank c = true) : isNameChar c = false := by
  have notLine : c ≠ '_' := by
    rintro rfl
    cases blank
  have notAlphanumeric : isAlphanumeric c = false := by
    rw [← Bool.not_eq_true]
    intro alphanumeric
    unfold isAlphanumeric at alphanumeric
    split at alphanumeric
    · next ascii =>
        have apart := ascii_blanks c.toNat ascii
        rw [Char.ofNat_toNat] at apart
        rw [apart blank] at alphanumeric
        cases alphanumeric
    · obtain ⟨first, firstIn, low⟩ := List.any_eq_true.mp blank
      obtain ⟨second, secondIn, high⟩ := List.any_eq_true.mp alphanumeric
      simp only [Bool.and_eq_true, decide_eq_true_eq] at low high
      have apart := ranges_apart first firstIn second secondIn
      omega
  simp [isNameChar, notAlphanumeric, notLine]

theorem isBlank_of_isNameChar {c : Char} (name : isNameChar c = true) : isBlank c = false := by
  rw [← Bool.not_eq_true]
  intro blank
  rw [isNameChar_of_isBlank blank] at name
  cases name

theorem isNameChar_of_isDigit {c : Char} (digit : c.isDigit = true) : isNameChar c = true := by
  have alphanum : c.isAlphanum = true := by
    rw [Char.isAlphanum, digit, Bool.or_true]
  rw [isNameChar, isAlphanumeric_of_isAlphanum alphanum, Bool.true_or]

theorem isBlank_space : ∀ c ∈ [' '], isBlank c = true :=
  List.forall_mem_singleton.mpr (by decide)

theorem isBlank_of_skipBlanks_eq_cons {text rest : List Char} {c : Char}
    (skipped : skipBlanks text = c :: rest) : isBlank c = false := by
  have head := List.head?_dropWhile_not isBlank text
  rw [← skipBlanks, skipped] at head
  exact head

@[simp]
theorem skipBlanks_skipBlanks (text : List Char) :
    skipBlanks (skipBlanks text) = skipBlanks text :=
  List.dropWhile_idempotent isBlank text

theorem skipBlanks_append {blanks : List Char} (blank : ∀ c ∈ blanks, isBlank c = true)
    (text : List Char) : skipBlanks (blanks ++ text) = skipBlanks text :=
  List.dropWhile_append_of_pos blank

end Text

namespace Scanner

open Text

/-- A text that does not go on with a character of some class. -/
def Stops (p : Char → Bool) (text : List Char) : Prop :=
  ∀ c ∈ text.head?, p c = false

theorem takeWhile_of_stops {p : Char → Bool} {word rest : List Char}
    (inside : ∀ c ∈ word, p c = true) (stops : Stops p rest) :
    (word ++ rest).takeWhile p = word := by
  rw [List.takeWhile_append_of_pos inside]
  cases rest with
  | nil => simp
  | cons c rest =>
      have stop : p c = false := stops c rfl
      simp [stop]

theorem dropWhile_of_stops {p : Char → Bool} {word rest : List Char}
    (inside : ∀ c ∈ word, p c = true) (stops : Stops p rest) :
    (word ++ rest).dropWhile p = rest := by
  rw [List.dropWhile_append_of_pos inside]
  cases rest with
  | nil => rfl
  | cons c rest =>
      have stop : p c = false := stops c rfl
      simp [stop]

theorem stops_dropWhile (p : Char → Bool) (text : List Char) : Stops p (text.dropWhile p) := by
  intro c head
  have first := List.head?_dropWhile_not p text
  rw [Option.mem_def.mp head] at first
  exact first

/-- A text that ends or goes on with a mark, blanks aside. -/
def Delimited (text : List Char) : Prop :=
  Stops isValueChar (skipBlanks text)

theorem delimited_of_mark {text rest : List Char} {mark : Char}
    (next : skipBlanks text = mark :: rest) (isMark : isValueChar mark = false) :
    Delimited text := by
  intro c head
  rw [next] at head
  cases head
  exact isMark

theorem delimited_nil : Delimited [] := nofun

theorem isValueChar_of_isBlank {c : Char} (blank : isBlank c = true) : isValueChar c = true := by
  rw [isValueChar]
  simp only [Bool.and_eq_true, bne_iff_ne]
  refine ⟨⟨?_, ?_⟩, ?_⟩
  · rintro rfl
    cases blank
  · rintro rfl
    cases blank
  · rintro rfl
    cases blank

theorem isValueChar_of_isNameChar {c : Char} (name : isNameChar c = true) :
    isValueChar c = true := by
  have notMark : ∀ mark : Char, isNameChar mark = false → c ≠ mark := by
    rintro mark different rfl
    rw [different] at name
    cases name
  simp [isValueChar, notMark ',' (by decide), notMark '(' (by decide), notMark ')' (by decide)]

/-- A class of characters of values, blanks apart, does not reach beyond the end of a token. -/
theorem Delimited.stops {text : List Char} (delimited : Delimited text) {p : Char → Bool}
    (inside : ∀ c, p c = true → isBlank c = false ∧ isValueChar c = true) : Stops p text := by
  intro c head
  rw [← Bool.not_eq_true]
  intro belongs
  obtain ⟨notBlank, valueChar⟩ := inside c belongs
  cases text with
  | nil => cases head
  | cons d rest =>
      cases head
      have first : skipBlanks (c :: rest) = c :: rest := by
        rw [skipBlanks, List.dropWhile_cons_of_neg (by simp [notBlank])]
      have isMark := delimited c (by rw [first]; rfl)
      rw [valueChar] at isMark
      cases isMark

theorem Delimited.stops_name {text : List Char} (delimited : Delimited text) :
    Stops isNameChar text :=
  delimited.stops fun _ name => ⟨isBlank_of_isNameChar name, isValueChar_of_isNameChar name⟩

theorem Delimited.stops_digit {text : List Char} (delimited : Delimited text) :
    Stops Char.isDigit text := by
  apply delimited.stops
  intro c digit
  have name := isNameChar_of_isDigit digit
  exact ⟨isBlank_of_isNameChar name, isValueChar_of_isNameChar name⟩

theorem Delimited.no_point {text rest : List Char} (delimited : Delimited text) :
    text ≠ '.' :: rest := by
  rintro rfl
  exact absurd (delimited '.' (by rfl)) (by decide)

/-! ## Marks and keywords -/

theorem character_eq_ok_iff {wanted : Char} {text rest : List Char} {value : Unit} :
    character wanted text = .ok (value, rest) ↔ skipBlanks text = wanted :: rest := by
  unfold character
  split
  · next c tail found =>
      rw [found]
      by_cases same : c = wanted
      · rw [if_pos same, same]
        constructor
        · rintro ⟨⟩
          rfl
        · rintro ⟨⟩
          rfl
      · rw [if_neg same]
        constructor
        · nofun
        · rintro ⟨⟩
          exact absurd rfl same
  · next found =>
      rw [found]
      constructor
      · nofun
      · nofun

theorem character_of_mark {mark : Char} {text after : List Char}
    (found : skipBlanks text = mark :: after) : character mark text = .ok ((), after) :=
  character_eq_ok_iff.mpr found

theorem character_bind_eq_ok_iff {β : Type} {mark : Char} {text : List Char}
    {next : Unit × List Char → Except Refusal β} {result : β} :
    (character mark text >>= next) = .ok result ↔
      ∃ after, skipBlanks text = mark :: after ∧ next ((), after) = .ok result := by
  rw [bind_eq_ok]
  constructor
  · rintro ⟨⟨_, after⟩, found, success⟩
    exact ⟨after, character_eq_ok_iff.mp found, success⟩
  · rintro ⟨after, found, success⟩
    exact ⟨((), after), character_eq_ok_iff.mpr found, success⟩

theorem closing_eq_some_iff {text rest : List Char} :
    closing? text = some rest ↔ skipBlanks text = ')' :: rest := by
  unfold closing?
  split
  · next tail found =>
      rw [found]
      simp
  · next other =>
      constructor
      · nofun
      · intro found
        exact absurd found (other rest)

theorem finished_eq_some_iff {text rest : List Char} :
    finished? text = some rest ↔ skipBlanks text = [] ∧ rest = [] := by
  unfold finished?
  split
  · next found => simp [found, eq_comm]
  · next other =>
      constructor
      · nofun
      · rintro ⟨found, _⟩
        exact absurd found other

theorem dropStart_eq_some_iff {start text rest : List Char} :
    dropStart? start text = some rest ↔ text = start ++ rest := by
  induction start generalizing text with
  | nil => simp [dropStart?, eq_comm]
  | cons wanted start ih =>
      cases text with
      | nil => simp [dropStart?]
      | cons c text =>
          rw [dropStart?]
          by_cases same : c = wanted
          · rw [if_pos same, ih, same]
            simp
          · rw [if_neg same]
            simp [same]

theorem keyword_eq_some_iff {word : String} {text rest : List Char} :
    keyword? word text = some rest ↔ text = word.toList ++ rest ∧ Stops isNameChar rest := by
  have split_word := @dropStart_eq_some_iff word.toList text
  unfold keyword?
  split
  · next c tail found =>
      have parts := split_word.mp found
      by_cases name : isNameChar c = true
      · rw [if_pos name]
        constructor
        · nofun
        · rintro ⟨same, stops⟩
          rw [split_word.mpr same] at found
          cases found
          have stop := stops c rfl
          rw [name] at stop
          cases stop
      · rw [if_neg name]
        constructor
        · rintro ⟨⟩
          refine ⟨parts, ?_⟩
          rintro d ⟨⟩
          simpa using name
        · rintro ⟨same, _⟩
          rw [← found, split_word.mpr same]
  · next other =>
      rw [split_word]
      constructor
      · intro same
        refine ⟨same, ?_⟩
        intro c head
        cases rest with
        | nil => cases head
        | cons d tail => exact absurd (split_word.mpr same) (other d tail)
      · exact fun parts => parts.1

/-- Different words of the characters of names. -/
def AreKeywords (words : List String) : Prop :=
  (∀ word ∈ words, word.toList.all isNameChar = true) ∧ words.Nodup

instance (words : List String) : Decidable (AreKeywords words) :=
  inferInstanceAs (Decidable (_ ∧ _))

/-- A text goes on with one keyword at most. -/
theorem keyword_unique {words : List String} (keywords : AreKeywords words)
    {first second : String} (firstIn : first ∈ words) (secondIn : second ∈ words)
    {rest other : List Char} (same : first.toList ++ rest = second.toList ++ other)
    (stops : Stops isNameChar rest) (otherStops : Stops isNameChar other) :
    first = second ∧ rest = other := by
  have chars := fun word member => List.all_eq_true.mp (keywords.1 word member)
  have firstWord := takeWhile_of_stops (chars first firstIn) stops
  have secondWord := takeWhile_of_stops (chars second secondIn) otherStops
  have words_eq : first.toList = second.toList := by
    rw [← firstWord, ← secondWord, same]
  refine ⟨String.toList_inj.mp words_eq, ?_⟩
  rw [words_eq] at same
  exact List.append_cancel_left same

theorem select_eq_some_iff {β : Type} {choices : List (String × β)}
    (keywords : AreKeywords (choices.map (·.1))) {text rest : List Char} {choice : β} :
    select? choices text = some (choice, rest) ↔
      ∃ word, (word, choice) ∈ choices ∧ text = word.toList ++ rest ∧
        Stops isNameChar rest := by
  induction choices with
  | nil => simp [select?]
  | cons entry choices ih =>
      obtain ⟨word, first⟩ := entry
      have fewer : AreKeywords (choices.map (·.1)) :=
        ⟨fun other member => keywords.1 other (List.mem_cons_of_mem _ member),
          (List.nodup_cons.mp keywords.2).2⟩
      have notAgain := (List.nodup_cons.mp keywords.2).1
      unfold select? at ih ⊢
      rw [List.findSome?_cons]
      cases found : keyword? word text with
      | none =>
          simp only [found, Option.map_none]
          rw [ih fewer]
          constructor
          · rintro ⟨other, member, parts⟩
            exact ⟨other, List.mem_cons_of_mem _ member, parts⟩
          · rintro ⟨other, member, parts⟩
            rcases List.mem_cons.mp member with same | member
            · cases same
              rw [keyword_eq_some_iff.mpr parts] at found
              cases found
            · exact ⟨other, member, parts⟩
      | some after =>
          simp only [found, Option.map_some]
          have here := keyword_eq_some_iff.mp found
          constructor
          · rintro ⟨⟩
            exact ⟨word, List.mem_cons_self, here⟩
          · rintro ⟨other, member, parts⟩
            have otherIn : other ∈ (((word, first) :: choices).map (·.1)) :=
              List.mem_map_of_mem member
            obtain ⟨rfl, rfl⟩ := keyword_unique keywords (List.mem_cons_self) otherIn
              (here.1.symm.trans parts.1) here.2 parts.2
            rcases List.mem_cons.mp member with same | member
            · cases same
              rfl
            · exact absurd (List.mem_map_of_mem member) notAgain

/-! ## Names and values -/

open Grammar

theorem identifier_eq_ok_iff {what name : String} {text rest : List Char} :
    identifier what text = .ok (name, rest) ↔
      ∃ token, IsName token ∧ name = String.ofList token ∧
        skipBlanks text = token ++ rest ∧ Stops isNameChar rest := by
  unfold identifier
  simp only
  constructor
  · intro success
    split at success
    · cases success
    · next nonempty =>
        cases success
        refine ⟨_, ⟨nonempty, fun c member => List.mem_takeWhile_imp member⟩, rfl,
          List.takeWhile_append_dropWhile.symm, stops_dropWhile _ _⟩
  · rintro ⟨token, isName, rfl, parts, stops⟩
    rw [parts, takeWhile_of_stops isName.chars stops, dropWhile_of_stops isName.chars stops]
    cases token with
    | nil => exact absurd rfl isName.nonempty
    | cons c token => rfl

theorem skipBlanks_of_isValue {token after : List Char} (isValue : IsValue token) :
    skipBlanks (token ++ after) = token ++ after := by
  cases token with
  | nil => exact absurd rfl isValue.nonempty
  | cons c token =>
      have notBlank := isValue.starts c rfl
      rw [List.cons_append, skipBlanks, List.dropWhile_cons_of_neg (by simp [notBlank])]

theorem trimChars_of_isValue {token blanks : List Char} (isValue : IsValue token)
    (blank : ∀ c ∈ blanks, isBlank c = true) : trimChars (token ++ blanks) = token := by
  rw [trimChars, skipBlanks_of_isValue isValue]
  change (token ++ blanks).rdropWhile isBlank = token
  rw [List.rdropWhile, List.reverse_append, List.dropWhile_append_of_pos (by simpa using blank)]
  change token.rdropWhile isBlank = token
  rw [List.rdropWhile_eq_self_iff]
  intro nonempty
  have last := isValue.ends (token.getLast nonempty) (List.getLast?_eq_some_getLast nonempty)
  simp [last]

/-- A value is read up to the mark behind it, with the blanks before the mark. -/
theorem value_eq_ok_of_isValue {token text after : List Char} (isValue : IsValue token)
    (parts : skipBlanks text = token ++ after) (delimited : Delimited after) :
    value text = .ok (String.ofList token, skipBlanks after) := by
  have blank : ∀ c ∈ after.takeWhile isBlank, isBlank c = true :=
    fun c member => List.mem_takeWhile_imp member
  have split_after : after = after.takeWhile isBlank ++ skipBlanks after :=
    List.takeWhile_append_dropWhile.symm
  have inside : ∀ c ∈ token ++ after.takeWhile isBlank, isValueChar c = true := by
    intro c member
    rcases List.mem_append.mp member with member | member
    · exact isValue.chars c member
    · exact isValueChar_of_isBlank (blank c member)
  have whole : skipBlanks text = (token ++ after.takeWhile isBlank) ++ skipBlanks after := by
    rw [List.append_assoc, ← split_after, parts]
  unfold value
  simp only [whole]
  rw [takeWhile_of_stops inside delimited, dropWhile_of_stops inside delimited,
    trimChars_of_isValue isValue blank]
  cases token with
  | nil => exact absurd rfl isValue.nonempty
  | cons c token => rfl

theorem isValue_of_value {text rest : List Char} {found : String}
    (success : value text = .ok (found, rest)) :
    ∃ token after, IsValue token ∧ found = String.ofList token ∧
      skipBlanks text = token ++ after ∧ skipBlanks after = skipBlanks rest := by
  unfold value at success
  simp only at success
  split at success
  · cases success
  · next nonempty =>
      cases success
      -- the run of value characters starts where the blanks end
      have run_starts : skipBlanks ((skipBlanks text).takeWhile isValueChar) =
          (skipBlanks text).takeWhile isValueChar := by
        cases skipped : skipBlanks text with
        | nil => rfl
        | cons c rest =>
            have notBlank := isBlank_of_skipBlanks_eq_cons skipped
            by_cases valueChar : isValueChar c = true
            · rw [List.takeWhile_cons_of_pos valueChar, skipBlanks,
                List.dropWhile_cons_of_neg (by simp [notBlank])]
            · rw [List.takeWhile_cons_of_neg valueChar]
              rfl
      rw [trimChars, run_starts] at nonempty ⊢
      change List.rdropWhile isBlank _ = [] → False at nonempty
      change ∃ token after, IsValue token ∧
        String.ofList (((skipBlanks text).takeWhile isValueChar).rdropWhile isBlank) = _ ∧ _
      have parts : skipBlanks text =
          ((skipBlanks text).takeWhile isValueChar).rdropWhile isBlank ++
            (((skipBlanks text).takeWhile isValueChar).rtakeWhile isBlank ++
              (skipBlanks text).dropWhile isValueChar) := by
        rw [← List.append_assoc, List.rdropWhile_append_rtakeWhile,
          List.takeWhile_append_dropWhile]
      refine ⟨_, _, ⟨nonempty, ?_, ?_, ?_⟩, rfl, parts, ?_⟩
      · intro c member
        exact List.mem_takeWhile_imp ((List.rdropWhile_prefix _ _).subset member)
      · intro c head
        rw [Option.mem_def, List.head?_eq_some_iff] at head
        obtain ⟨tail, starts⟩ := head
        rw [starts] at parts
        exact isBlank_of_skipBlanks_eq_cons parts
      · intro c last
        have notBlank := List.rdropWhile_last_not isBlank _ nonempty
        rw [Option.mem_def, List.getLast?_eq_some_getLast nonempty] at last
        cases last
        simpa using notBlank
      · apply skipBlanks_append
        intro c member
        exact List.mem_rtakeWhile_imp member

/-! ## Numbers -/

section Numbers

variable {digits body : List Char} {places : Nat} {negative : Bool}

theorem spanDigits_of_stops {after : List Char} (isDigit : ∀ c ∈ digits, c.isDigit = true)
    (stops : Stops Char.isDigit after) : Decimal.spanDigits (digits ++ after) = (digits, after) := by
  rw [Decimal.spanDigits, takeWhile_of_stops isDigit stops, dropWhile_of_stops isDigit stops]

theorem stops_point (rest : List Char) : Stops Char.isDigit ('.' :: rest) := by
  rintro c ⟨⟩
  decide

theorem spanDigitsPoint_of_magnitude (magnitude : Magnitude digits places body)
    {after : List Char} (delimited : Delimited after) :
    spanDigitsPoint (body ++ after) = (body, after) := by
  have stops := delimited.stops_digit
  cases magnitude with
  | whole nonempty isDigit =>
      unfold spanDigitsPoint
      simp only [spanDigits_of_stops isDigit stops]
      split
      · exact absurd rfl delimited.no_point
      · rfl
  | @pointed whole fraction nonempty isDigit =>
      have wholeDigits : ∀ c ∈ whole, c.isDigit = true :=
        fun c member => isDigit c (List.mem_append_left _ member)
      have fractionDigits : ∀ c ∈ fraction, c.isDigit = true :=
        fun c member => isDigit c (List.mem_append_right _ member)
      unfold spanDigitsPoint
      rw [List.append_assoc, List.cons_append, spanDigits_of_stops wholeDigits (stops_point _)]
      simp only [spanDigits_of_stops fractionDigits stops]

theorem readMagnitude_of_magnitude (magnitude : Magnitude digits places body) :
    Decimal.readMagnitude? negative body =
      some ⟨negative, Decimal.valueOf digits, -(places : Int)⟩ := by
  have stops_nil : Stops Char.isDigit [] := nofun
  unfold Decimal.readMagnitude? Decimal.spell?
  cases magnitude with
  | whole nonempty isDigit =>
      have spanned := spanDigits_of_stops isDigit stops_nil
      rw [List.append_nil] at spanned
      simp [spanned, nonempty, Decimal.Spelling.toDecimal]
  | @pointed whole fraction nonempty isDigit =>
      have wholeDigits : ∀ c ∈ whole, c.isDigit = true :=
        fun c member => isDigit c (List.mem_append_left _ member)
      have fractionDigits : ∀ c ∈ fraction, c.isDigit = true :=
        fun c member => isDigit c (List.mem_append_right _ member)
      have spanned := spanDigits_of_stops fractionDigits stops_nil
      rw [List.append_nil] at spanned
      have some_digits : (whole.isEmpty && fraction.isEmpty) = false := by
        rw [← Bool.not_eq_true, Bool.and_eq_true, List.isEmpty_iff, List.isEmpty_iff]
        rintro ⟨rfl, rfl⟩
        exact nonempty rfl
      simp [spanDigits_of_stops wholeDigits (stops_point _), spanned, some_digits,
        Decimal.Spelling.toDecimal]

/-- A magnitude starts with a digit or the point. -/
theorem head_of_magnitude (magnitude : Magnitude digits places body) :
    ∃ c rest, body = c :: rest ∧ (c.isDigit = true ∨ c = '.') := by
  cases magnitude with
  | whole nonempty isDigit =>
      obtain ⟨c, rest, rfl⟩ := List.exists_cons_of_ne_nil nonempty
      exact ⟨c, rest, rfl, .inl (isDigit c (by simp))⟩
  | @pointed whole fraction nonempty isDigit =>
      cases whole with
      | nil => exact ⟨'.', fraction, rfl, .inr rfl⟩
      | cons c whole => exact ⟨c, _, rfl, .inl (isDigit c (by simp))⟩

theorem head_ne_of_magnitude {mark : Char} (magnitude : Magnitude digits places body)
    (noDigit : mark.isDigit = false) (noPoint : mark ≠ '.') (rest : List Char) :
    body ≠ mark :: rest := by
  rintro rfl
  obtain ⟨c, tail, same, digit | point⟩ := head_of_magnitude magnitude
  · cases same
    rw [noDigit] at digit
    cases digit
  · cases same
    exact noPoint point

theorem any_isDigit_of_magnitude (magnitude : Magnitude digits places body) :
    body.any Char.isDigit = true := by
  rw [List.any_eq_true]
  cases magnitude with
  | whole nonempty isDigit =>
      obtain ⟨c, rest, rfl⟩ := List.exists_cons_of_ne_nil nonempty
      exact ⟨c, by simp, isDigit c (by simp)⟩
  | pointed nonempty isDigit =>
      obtain ⟨c, member⟩ := List.exists_mem_of_ne_nil _ nonempty
      refine ⟨c, ?_, isDigit c member⟩
      rcases List.mem_append.mp member with member | member
      · exact List.mem_append_left _ member
      · exact List.mem_append_right _ (List.mem_cons_of_mem _ member)

theorem spanSign_of_magnitude (magnitude : Magnitude digits places body) :
    Decimal.spanSign (sign negative ++ body) = (negative, body) := by
  cases negative with
  | true => rfl
  | false =>
      change Decimal.spanSign body = (false, body)
      unfold Decimal.spanSign
      split
      · exact absurd rfl (head_ne_of_magnitude magnitude (by decide) (by decide) _)
      · exact absurd rfl (head_ne_of_magnitude magnitude (by decide) (by decide) _)
      · rfl

theorem spanNumber_of_magnitude (magnitude : Magnitude digits places body) {after : List Char}
    (delimited : Delimited after) :
    spanNumber (sign negative ++ body ++ after) = (sign negative ++ body, after) := by
  have spanned := spanDigitsPoint_of_magnitude magnitude delimited
  cases negative with
  | true =>
      change spanNumber ('-' :: (body ++ after)) = _
      simp only [spanNumber, spanned]
      rfl
  | false =>
      change spanNumber (body ++ after) = (body, after)
      obtain ⟨c, rest, rfl, first⟩ := head_of_magnitude magnitude
      unfold spanNumber
      split
      · next unsigned found =>
          cases found
          rcases first with digit | point
          · cases digit
          · cases point
      · exact spanned

theorem number_eq_ok_of_number {decimal : Decimal} {token text after : List Char}
    (written : Number decimal token) (parts : skipBlanks text = token ++ after)
    (delimited : Delimited after) : number text = .ok (decimal, after) := by
  obtain ⟨magnitude⟩ := written
  have some_digit := any_isDigit_of_magnitude magnitude
  unfold number
  simp only [parts, spanNumber_of_magnitude magnitude delimited, List.any_append, some_digit,
    Bool.or_true, Bool.not_true, Bool.false_eq_true, if_false, spanSign_of_magnitude magnitude,
    readMagnitude_of_magnitude magnitude]

/-- What is taken off a text as digits with a point is a magnitude, or has no digit. -/
theorem magnitude_of_spanDigitsPoint {text lexeme rest : List Char}
    (spanned : spanDigitsPoint text = (lexeme, rest)) (digit : lexeme.any Char.isDigit = true) :
    text = lexeme ++ rest ∧ ∃ digits places, Magnitude digits places lexeme := by
  have inside : ∀ {text : List Char}, ∀ c ∈ text.takeWhile Char.isDigit, c.isDigit = true :=
    fun c member => List.mem_takeWhile_imp member
  have whole : text = text.takeWhile Char.isDigit ++ text.dropWhile Char.isDigit :=
    List.takeWhile_append_dropWhile.symm
  unfold spanDigitsPoint Decimal.spanDigits at spanned
  simp only at spanned
  split at spanned
  · next afterPoint found =>
      cases spanned
      rw [found] at whole
      have magnitude : Magnitude
          (text.takeWhile Char.isDigit ++ afterPoint.takeWhile Char.isDigit)
          (afterPoint.takeWhile Char.isDigit).length
          (text.takeWhile Char.isDigit ++ '.' :: afterPoint.takeWhile Char.isDigit) := by
        apply Magnitude.pointed
        · intro empty
          obtain ⟨noWhole, noFraction⟩ := List.append_eq_nil_iff.mp empty
          rw [noWhole, noFraction] at digit
          cases digit
        · intro c member
          rcases List.mem_append.mp member with member | member
          · exact inside c member
          · exact inside c member
      refine ⟨?_, _, _, magnitude⟩
      rw [List.append_assoc, List.cons_append, List.takeWhile_append_dropWhile]
      exact whole
  · next noPoint =>
      cases spanned
      refine ⟨whole, _, _, .whole ?_ inside⟩
      intro empty
      rw [empty] at digit
      cases digit

/-- The same of a number with its sign. -/
theorem magnitude_of_spanNumber {text lexeme rest : List Char}
    (spanned : spanNumber text = (lexeme, rest)) (digit : lexeme.any Char.isDigit = true) :
    text = lexeme ++ rest ∧ ∃ negative body digits places, lexeme = sign negative ++ body ∧
      Magnitude digits places body := by
  unfold spanNumber at spanned
  split at spanned
  · next unsigned =>
      cases inner : spanDigitsPoint unsigned with
      | mk body tail =>
          rw [inner] at spanned
          cases spanned
          obtain ⟨rfl, digits, places, magnitude⟩ :=
            magnitude_of_spanDigitsPoint inner (by simpa using digit)
          exact ⟨rfl, true, body, digits, places, rfl, magnitude⟩
  · obtain ⟨parts, digits, places, magnitude⟩ := magnitude_of_spanDigitsPoint spanned digit
    exact ⟨parts, false, lexeme, digits, places, rfl, magnitude⟩

theorem number_of_number {text rest : List Char} {decimal : Decimal}
    (success : number text = .ok (decimal, rest)) :
    ∃ token, Number decimal token ∧ skipBlanks text = token ++ rest := by
  unfold number at success
  simp only at success
  split at success
  · cases success
  · next digit =>
      cases spanned : spanNumber (skipBlanks text) with
      | mk lexeme final =>
          rw [spanned] at success digit
          simp only [Bool.not_eq_true', Bool.not_eq_false] at digit
          obtain ⟨parts, negative, body, digits, places, signed, magnitude⟩ :=
            magnitude_of_spanNumber spanned digit
          simp only [signed, spanSign_of_magnitude magnitude,
            readMagnitude_of_magnitude magnitude] at success
          cases success
          rw [signed] at parts
          exact ⟨_, .intro magnitude, parts⟩

end Numbers

end Scanner

end DailySignals
