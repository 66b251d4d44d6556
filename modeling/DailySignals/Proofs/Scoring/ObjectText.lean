import DailySignals.Condition.Scanner
import DailySignals.Json.Reader

/-!
# JSON objects behind a brace matcher

The parameters of a rule are found by counting braces, with a state for strings
and for escapes.  The grammar of JSON nests by other rules, but it agrees with
the count: within an object, every value leaves the depth as it was, and a string
is left at its own quote.  So exactly the object is taken off the text.
-/

set_option autoImplicit false

namespace DailySignals

namespace Json

/-! ## The grammar -/

/-- What stands between the quotes of a string. -/
inductive StringBody : List Char → Prop
  | done : StringBody []
  | plain {c : Char} {rest : List Char} (noQuote : c ≠ '"') (noEscape : c ≠ '\\')
      (noControl : 0x20 ≤ c.toNat) (others : StringBody rest) : StringBody (c :: rest)
  | escaped {c : Char} {rest : List Char} (known : (escaped? c).isSome)
      (others : StringBody rest) : StringBody ('\\' :: c :: rest)
  | unit {a b c d : Char} {rest : List Char}
      (hex : ∀ digit ∈ [a, b, c, d], (hexValue? digit).isSome) (others : StringBody rest) :
      StringBody ('\\' :: 'u' :: a :: b :: c :: d :: rest)

def IsDigits (text : List Char) : Prop :=
  text ≠ [] ∧ ∀ c ∈ text, c.isDigit = true

/-- A number: no leading zeros, and digits behind a point and in an exponent. -/
structure IsNumber (sign whole fraction exponent : List Char) : Prop where
  sign : sign = [] ∨ sign = ['-']
  whole : whole = ['0'] ∨ IsDigits whole ∧ whole.head? ≠ some '0'
  fraction : fraction = [] ∨ ∃ digits, IsDigits digits ∧ fraction = '.' :: digits
  exponent : exponent = [] ∨ ∃ mark sign digits, (mark = 'e' ∨ mark = 'E') ∧
    (sign = [] ∨ sign = ['+'] ∨ sign = ['-']) ∧ IsDigits digits ∧
    exponent = mark :: (sign ++ digits)

def IsSpaces (text : List Char) : Prop :=
  ∀ c ∈ text, isSpace c = true

/-- The parts of a text that the grammar names. -/
inductive Part where
  | value
  | elements
  | member
  | members
  | object

/-- What may be written for a part. -/
inductive Derives : Part → List Char → Prop
  | word {word : String} (known : word ∈ ["null", "true", "false"]) : Derives .value word.toList
  | number {sign whole fraction exponent : List Char}
      (isNumber : IsNumber sign whole fraction exponent) :
      Derives .value (sign ++ whole ++ fraction ++ exponent)
  | string {body : List Char} (isBody : StringBody body) : Derives .value ('"' :: (body ++ ['"']))
  | ofObject {text : List Char} (object : Derives .object text) : Derives .value text
  | emptyArray {spaces : List Char} (isSpaces : IsSpaces spaces) :
      Derives .value ('[' :: (spaces ++ [']']))
  | array {elements : List Char} (listed : Derives .elements elements) :
      Derives .value ('[' :: (elements ++ [']']))
  | element {before text after : List Char} (spaceBefore : IsSpaces before)
      (value : Derives .value text) (spaceAfter : IsSpaces after) :
      Derives .elements (before ++ text ++ after)
  | elements {before text after others : List Char} (spaceBefore : IsSpaces before)
      (value : Derives .value text) (spaceAfter : IsSpaces after)
      (listed : Derives .elements others) :
      Derives .elements (before ++ text ++ after ++ ',' :: others)
  | member {before name colon gap text after : List Char} (spaceBefore : IsSpaces before)
      (isName : StringBody name) (spaceColon : IsSpaces colon) (spaceGap : IsSpaces gap)
      (value : Derives .value text) (spaceAfter : IsSpaces after) :
      Derives .member
        (before ++ '"' :: (name ++ ['"']) ++ colon ++ ':' :: gap ++ text ++ after)
  | lastMember {text : List Char} (member : Derives .member text) : Derives .members text
  | members {text others : List Char} (member : Derives .member text)
      (listed : Derives .members others) : Derives .members (text ++ ',' :: others)
  | emptyObject {spaces : List Char} (isSpaces : IsSpaces spaces) :
      Derives .object ('\x7b' :: (spaces ++ ['\x7d']))
  | object {members : List Char} (listed : Derives .members members) :
      Derives .object ('\x7b' :: (members ++ ['\x7d']))

end Json

namespace Scanner

open Json

/-! ## The scan -/

/-- A text in front of the object that was found behind it. -/
def prepend (text : List Char) (found : Option (List Char × List Char)) :
    Option (List Char × List Char) :=
  found.map fun (object, rest) => (text ++ object, rest)

theorem prepend_nil (found : Option (List Char × List Char)) : prepend [] found = found := by
  cases found with
  | none => rfl
  | some pair => rfl

theorem push_prepend (c : Char) (text : List Char) (found : Option (List Char × List Char)) :
    objectText?.push c (prepend text found) = prepend (c :: text) found := by
  cases found with
  | none => rfl
  | some pair => rfl

theorem push_eq_prepend (c : Char) (found : Option (List Char × List Char)) :
    objectText?.push c found = prepend [c] found := by
  rw [← push_prepend, prepend_nil]

theorem prepend_prepend (text other : List Char) (found : Option (List Char × List Char)) :
    prepend text (prepend other found) = prepend (text ++ other) found := by
  cases found with
  | none => rfl
  | some pair => simp [prepend]

/-- A text that the scan of an object passes over, outside strings on both sides. -/
def Passes (text : List Char) : Prop :=
  ∀ depth rest, 0 < depth →
    objectText? depth .object (text ++ rest) = prepend text (objectText? depth .object rest)

theorem passes_nil : Passes [] := by
  intro depth rest _
  rw [prepend_nil, List.nil_append]

theorem Passes.append {text other : List Char} (one : Passes text) (two : Passes other) :
    Passes (text ++ other) := by
  intro depth rest inside
  rw [List.append_assoc, one depth _ inside, two depth rest inside, prepend_prepend]

/-- The characters that change the state of the scan. -/
def isActive (c : Char) : Bool :=
  c == '"' || c == '\x7b' || c == '\x7d'

theorem passes_of_inactive {text : List Char} (inactive : ∀ c ∈ text, isActive c = false) :
    Passes text := by
  induction text with
  | nil => exact passes_nil
  | cons c text ih =>
      intro depth rest inside
      have head := inactive c List.mem_cons_self
      simp only [isActive, Bool.or_eq_false_iff, beq_eq_false_iff_ne] at head
      obtain ⟨⟨noQuote, noOpen⟩, noClose⟩ := head
      have others := ih (fun other member => inactive other (List.mem_cons_of_mem _ member))
        depth rest inside
      rw [List.cons_append, objectText?, if_neg noQuote, if_neg noOpen, if_neg noClose, others,
        push_prepend]

theorem passes_char {c : Char} (inactive : isActive c = false) : Passes [c] :=
  passes_of_inactive (by simpa using inactive)

theorem scan_string {text : List Char} (plain : ∀ c ∈ text, c ≠ '\\' ∧ c ≠ '"') (depth : Nat)
    (rest : List Char) :
    objectText? depth .string (text ++ rest) =
      prepend text (objectText? depth .string rest) := by
  induction text with
  | nil => rw [prepend_nil, List.nil_append]
  | cons c text ih =>
      obtain ⟨noEscape, noQuote⟩ := plain c List.mem_cons_self
      have others := ih fun other member => plain other (List.mem_cons_of_mem _ member)
      rw [List.cons_append, objectText?, if_neg noEscape, if_neg noQuote, others, push_prepend]

theorem scan_escape (c : Char) (depth : Nat) (rest : List Char) :
    objectText? depth .string ('\\' :: c :: rest) =
      prepend ['\\', c] (objectText? depth .string rest) := by
  rw [objectText?, if_pos rfl, objectText?, push_eq_prepend, push_eq_prepend, prepend_prepend]
  rfl

theorem scan_stringBody {body : List Char} (isBody : StringBody body) (depth : Nat)
    (rest : List Char) :
    objectText? depth .string (body ++ '"' :: rest) =
      prepend (body ++ ['"']) (objectText? depth .object rest) := by
  induction isBody with
  | done =>
      rw [List.nil_append, objectText?, if_neg (by decide), if_pos rfl, push_eq_prepend]
      rfl
  | @plain c others noQuote noEscape _ _ ih =>
      have plain : ∀ d ∈ [c], d ≠ '\\' ∧ d ≠ '"' := by simp [noEscape, noQuote]
      have one := scan_string plain depth (others ++ '"' :: rest)
      rw [ih, prepend_prepend] at one
      exact one
  | escaped _ _ ih =>
      rw [List.cons_append, List.cons_append, scan_escape, ih, prepend_prepend]
      rfl
  | @unit a b c d others hex _ ih =>
      have plain : ∀ digit ∈ [a, b, c, d], digit ≠ '\\' ∧ digit ≠ '"' := by
        intro digit member
        have isHex := hex digit member
        constructor
        · rintro rfl
          cases isHex
        · rintro rfl
          cases isHex
      have four := scan_string plain depth (others ++ '"' :: rest)
      rw [ih, prepend_prepend] at four
      change objectText? depth .string
        ('\\' :: 'u' :: ([a, b, c, d] ++ (others ++ '"' :: rest))) = _
      rw [scan_escape, four, prepend_prepend]
      rfl

theorem passes_string {body : List Char} (isBody : StringBody body) :
    Passes ('"' :: (body ++ ['"'])) := by
  intro depth rest _
  rw [List.cons_append, List.append_assoc, objectText?, if_pos rfl]
  change objectText?.push '"' (objectText? depth .string (body ++ '"' :: rest)) = _
  rw [scan_stringBody isBody, push_prepend]

/-- An inner object goes one level down and comes back. -/
theorem passes_object {body : List Char} (passes : Passes body) :
    Passes ('\x7b' :: (body ++ ['\x7d'])) := by
  intro depth rest inside
  have deeper := passes (depth + 1) ('\x7d' :: rest) (by omega)
  have closing : objectText? (depth + 1) .object ('\x7d' :: rest) =
      prepend ['\x7d'] (objectText? depth .object rest) := by
    rw [objectText?, if_neg (by decide), if_neg (by decide), if_pos rfl, if_neg (by omega),
      push_eq_prepend]
    rfl
  rw [closing, prepend_prepend] at deeper
  rw [List.cons_append, List.append_assoc, objectText?, if_neg (by decide), if_pos rfl]
  change objectText?.push '\x7b' (objectText? (depth + 1) .object (body ++ '\x7d' :: rest)) = _
  rw [deeper, push_prepend]

theorem isActive_of_isSpace {c : Char} (space : isSpace c = true) : isActive c = false := by
  simp only [isSpace, Bool.or_eq_true, decide_eq_true_eq] at space
  rcases space with ((rfl | rfl) | rfl) | rfl
  · decide
  · decide
  · decide
  · decide

theorem isActive_of_isDigit {c : Char} (digit : c.isDigit = true) : isActive c = false := by
  rw [← Bool.not_eq_true]
  intro active
  simp only [isActive, Bool.or_eq_true, beq_iff_eq] at active
  rcases active with (rfl | rfl) | rfl
  · cases digit
  · cases digit
  · cases digit

theorem passes_spaces {text : List Char} (isSpaces : IsSpaces text) : Passes text :=
  passes_of_inactive fun c member => isActive_of_isSpace (isSpaces c member)

theorem passes_digits {text : List Char} (isDigits : IsDigits text) : Passes text :=
  passes_of_inactive fun c member => isActive_of_isDigit (isDigits.2 c member)

theorem passes_number {sign whole fraction exponent : List Char}
    (isNumber : IsNumber sign whole fraction exponent) :
    Passes (sign ++ whole ++ fraction ++ exponent) := by
  have passes_sign : ∀ {text : List Char}, text = [] ∨ text = ['+'] ∨ text = ['-'] →
      Passes text := by
    rintro text (rfl | rfl | rfl)
    · exact passes_nil
    · exact passes_char (by decide)
    · exact passes_char (by decide)
  have one : Passes sign := passes_sign (isNumber.sign.imp_right .inr)
  have two : Passes whole := by
    rcases isNumber.whole with rfl | ⟨digits, _⟩
    · exact passes_char (by decide)
    · exact passes_digits digits
  have three : Passes fraction := by
    rcases isNumber.fraction with rfl | ⟨digits, isDigits, rfl⟩
    · exact passes_nil
    · have point : Passes ['.'] := passes_char (by decide)
      exact point.append (passes_digits isDigits)
  have four : Passes exponent := by
    rcases isNumber.exponent with rfl | ⟨mark, power, digits, isMark, isSign, isDigits, rfl⟩
    · exact passes_nil
    · have marked : Passes [mark] := by
        rcases isMark with rfl | rfl
        · exact passes_char (by decide)
        · exact passes_char (by decide)
      exact marked.append ((passes_sign isSign).append (passes_digits isDigits))
  exact ((one.append two).append three).append four

theorem passes_of_derives {part : Part} {text : List Char} (derives : Derives part text) :
    Passes text := by
  have comma : Passes [','] := passes_char (by decide)
  have colonMark : Passes [':'] := passes_char (by decide)
  have opening : Passes ['['] := passes_char (by decide)
  have closing : Passes [']'] := passes_char (by decide)
  induction derives with
  | word known =>
      have inactive : ∀ word ∈ ["null", "true", "false"],
          (word.toList.all fun c => !isActive c) = true := by decide
      apply passes_of_inactive
      intro c member
      simpa using List.all_eq_true.mp (inactive _ known) c member
  | number isNumber => exact passes_number isNumber
  | string isBody => exact passes_string isBody
  | ofObject _ ih => exact ih
  | emptyArray isSpaces => exact opening.append ((passes_spaces isSpaces).append closing)
  | array _ ih => exact opening.append (ih.append closing)
  | element spaceBefore _ spaceAfter ih =>
      exact ((passes_spaces spaceBefore).append ih).append (passes_spaces spaceAfter)
  | elements spaceBefore _ spaceAfter _ ih others =>
      have first := ((passes_spaces spaceBefore).append ih).append (passes_spaces spaceAfter)
      exact first.append (comma.append others)
  | member spaceBefore isName spaceColon spaceGap _ spaceAfter ih =>
      have name := ((passes_spaces spaceBefore).append (passes_string isName)).append
        (passes_spaces spaceColon)
      have value := (name.append (colonMark.append (passes_spaces spaceGap))).append ih
      exact value.append (passes_spaces spaceAfter)
  | lastMember _ ih => exact ih
  | members _ _ ih others => exact ih.append (comma.append others)
  | emptyObject isSpaces => exact passes_object (passes_spaces isSpaces)
  | object _ ih => exact passes_object ih

/-- Of a text that goes on with an object, the scan takes exactly the object. -/
theorem objectText_of_derives {text : List Char} (derives : Derives .object text)
    (rest : List Char) : objectText? 0 .object (text ++ rest) = some (text, rest) := by
  obtain ⟨body, rfl, passes⟩ :
      ∃ body, text = '\x7b' :: (body ++ ['\x7d']) ∧ Passes body := by
    cases derives with
    | emptyObject isSpaces => exact ⟨_, rfl, passes_spaces isSpaces⟩
    | object listed => exact ⟨_, rfl, passes_of_derives listed⟩
  have inner := passes 1 ('\x7d' :: rest) (by omega)
  have closing : objectText? 1 .object ('\x7d' :: rest) = some (['\x7d'], rest) := by
    rw [objectText?, if_neg (by decide), if_neg (by decide), if_pos rfl, if_pos (by omega)]
  rw [closing] at inner
  rw [List.cons_append, List.append_assoc, objectText?, if_neg (by decide), if_pos rfl]
  change objectText?.push '\x7b' (objectText? 1 .object (body ++ '\x7d' :: rest)) = _
  rw [inner]
  rfl

/-! ## What the scan takes for an object -/

/-- A text that the scan takes off as an object, whatever stands behind it. -/
structure IsBraced (text : List Char) : Prop where
  starts : ∃ rest, text = '\x7b' :: rest
  scanned (rest : List Char) : objectText? 0 .object (text ++ rest) = some (text, rest)

theorem isBraced_of_derives {text : List Char} (derives : Derives .object text) :
    IsBraced text where
  starts := by
    cases derives with
    | emptyObject => exact ⟨_, rfl⟩
    | object => exact ⟨_, rfl⟩
  scanned := objectText_of_derives derives

/-- The scan does not look at what stands behind the object that it finds. -/
theorem objectText_local {text : List Char} : ∀ {depth : Nat} {within : Within}
    {object rest : List Char}, objectText? depth within text = some (object, rest) →
      text = object ++ rest ∧ object ≠ [] ∧
        ∀ other, objectText? depth within (object ++ other) = some (object, other) := by
  induction text with
  | nil =>
      intro depth within object rest found
      cases within with
      | object => cases found
      | string => cases found
      | escape => cases found
  | cons c text ih =>
      -- the step that puts `c` in front of what the rest of the scan finds
      have pushed : ∀ {depth : Nat} {within next : Within} {inner : Nat} {object rest : List Char},
          (∀ other, objectText? depth within (c :: other) =
            objectText?.push c (objectText? inner next other)) →
          objectText? depth within (c :: text) = some (object, rest) →
            c :: text = object ++ rest ∧ object ≠ [] ∧
              ∀ other, objectText? depth within (object ++ other) = some (object, other) := by
        intro depth within next inner object rest step found
        rw [step, objectText?.push, Option.map_eq_some_iff] at found
        obtain ⟨⟨body, final⟩, found, same⟩ := found
        obtain ⟨rfl, rfl⟩ := Prod.mk.inj same
        obtain ⟨rfl, _, sameBody⟩ := ih found
        refine ⟨rfl, List.cons_ne_nil _ _, fun other => ?_⟩
        rw [List.cons_append, step, sameBody]
        rfl
      intro depth within object rest found
      cases within with
      | escape => exact pushed (fun _ => by rw [objectText?]) found
      | string => exact pushed (fun _ => by rw [objectText?]) found
      | object =>
          by_cases quote : c = '"'
          · exact pushed (fun _ => by rw [objectText?, if_pos quote]) found
          · by_cases opening : c = '\x7b'
            · exact pushed (fun _ => by rw [objectText?, if_neg quote, if_pos opening]) found
            · by_cases closing : c = '\x7d'
              · by_cases last : depth ≤ 1
                · have step : ∀ other, objectText? depth .object (c :: other) =
                      some ([c], other) := by
                    intro other
                    rw [objectText?, if_neg quote, if_neg opening, if_pos closing, if_pos last]
                  obtain ⟨rfl, rfl⟩ := Prod.mk.inj (Option.some.inj ((step text).symm.trans found))
                  exact ⟨rfl, List.cons_ne_nil _ _, step⟩
                · exact pushed (fun _ => by
                    rw [objectText?, if_neg quote, if_neg opening, if_pos closing, if_neg last])
                    found
              · exact pushed (fun _ => by
                  rw [objectText?, if_neg quote, if_neg opening, if_neg closing]) found

theorem object_eq_ok_iff {text rest : List Char} {found : String} :
    Scanner.object text = .ok (found, rest) ↔
      ∃ token, IsBraced token ∧ String.ofList token = found ∧
        Text.skipBlanks text = token ++ rest := by
  unfold Scanner.object
  constructor
  · intro success
    split at success
    · next inside starts =>
        split at success
        · next object final scanned =>
            cases success
            obtain ⟨parts, nonempty, scannedAgain⟩ := objectText_local scanned
            obtain ⟨c, others, rfl⟩ := List.exists_cons_of_ne_nil nonempty
            obtain ⟨rfl, _⟩ := List.cons.inj parts
            exact ⟨_, ⟨⟨others, rfl⟩, scannedAgain⟩, rfl, starts.trans parts⟩
        · cases success
    · cases success
  · rintro ⟨token, ⟨⟨others, starts⟩, scanned⟩, rfl, parts⟩
    have found := scanned rest
    rw [starts, List.cons_append] at parts found
    rw [parts]
    simp only [found, starts]

end Scanner

end DailySignals
