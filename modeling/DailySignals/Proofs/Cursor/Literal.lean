import DailySignals.Proofs.Cursor.Token
import DailySignals.Proofs.Scoring.ObjectText

/-!
# Numbers and objects at a position

Both are cut out of the text between a start and the position that a loop has come to.
The loop over a number counts digits, and the characters that it passes over are a
number to the reader of doubles.  The loop over an object counts braces, and never
below zero.
-/

set_option autoImplicit false

namespace DailySignals

namespace Cursor

variable {text unread rest : List Char}

/-! ## Numbers -/

/-- Counts a digit, or passes over the first point.  The count has no bound: that a counter
of 32 bits would overflow beyond 2 ^ 31 - 1 digits in one number is left out. -/
def digitRound : Bool × Nat → Cursor (Round (Bool × Nat) Nat)
  | (pointed, digits) => do
      match ← peek with
      | some c =>
          if c.isDigit then
            let _ ← advance
            return .again (pointed, digits + 1)
          else if c = '.' ∧ pointed = false then
            let _ ← advance
            return .again (true, digits)
          else return .leave digits
      | none => return .leave digits

/-- Passes over a sign and digits with a point, and says how many digits there are. -/
def numeral : Cursor Nat := do
  if (← peek) = some '-' then
    let _ ← advance
    loop digitRound (false, 0)
  else loop digitRound (false, 0)

/-- A number, whose characters are read like any text of a number. -/
def number : Cursor Float := do
  skipBlanks
  let start ← position
  if (← numeral) = 0 then refuseAt start .number
  else
    let lexeme ← sliceFrom start
    match Numeral.float? (String.ofList lexeme) with
    | some found => return found
    | none => mishap (.noNumber lexeme)

section Digits

variable {pointed : Bool} {count : Nat}

/-- The digits that come next are counted one by one. -/
theorem yields_digits {outcome : Except Refusal (Nat × List Char)}
    (further : Yields text
      (loop digitRound (pointed, count + (unread.takeWhile Char.isDigit).length))
      (unread.dropWhile Char.isDigit) outcome) :
    Yields text (loop digitRound (pointed, count)) unread outcome := by
  induction unread generalizing count with
  | nil => exact further
  | cons c rest ih =>
      by_cases digit : c.isDigit = true
      · rw [List.takeWhile_cons_of_pos digit, List.dropWhile_cons_of_pos digit, List.length_cons,
          ← Nat.add_assoc, Nat.add_right_comm] at further
        refine yields_loop_again (yields_peek.andThen ?_) (Nat.lt_succ_self _) (ih further)
        rw [List.head?_cons]
        simp only [digit, if_true]
        exact (yields_advance c).andThen (yields_pure _)
      · rw [List.takeWhile_cons_of_neg digit, List.dropWhile_cons_of_neg digit] at further
        exact further

theorem yields_point {outcome : Except Refusal (Nat × List Char)}
    (further : Yields text (loop digitRound (true, count)) rest outcome) :
    Yields text (loop digitRound (false, count)) ('.' :: rest) outcome := by
  refine yields_loop_again (yields_peek.andThen ?_) (Nat.lt_succ_self _) further
  exact (yields_advance '.').andThen (yields_pure _)

theorem yields_digits_end (stops : Scanner.Stops Char.isDigit unread)
    (noPoint : pointed = true ∨ unread.head? ≠ some '.') :
    Yields text (loop digitRound (pointed, count)) unread (.ok (count, unread)) := by
  refine yields_loop_leave (yields_peek.andThen ?_)
  cases unread with
  | nil => exact yields_pure _
  | cons c rest =>
      have notDigit : c.isDigit = false := stops c rfl
      have notPoint : ¬ (c = '.' ∧ pointed = false) := by
        rintro ⟨rfl, rfl⟩
        rcases noPoint with earlier | other
        · cases earlier
        · exact other rfl
      rw [List.head?_cons]
      simp only [notDigit, Bool.false_eq_true, if_false, if_neg notPoint]
      exact yields_pure _

theorem yields_unsigned (count : Nat) (text unread : List Char) :
    Yields text (loop digitRound (false, count)) unread
      (.ok (count + (Scanner.spanDigitsPoint unread).1.countP Char.isDigit,
        (Scanner.spanDigitsPoint unread).2)) := by
  have counted : ∀ text : List Char, (text.takeWhile Char.isDigit).countP Char.isDigit =
      (text.takeWhile Char.isDigit).length :=
    fun text => List.countP_eq_length.mpr fun c member => List.mem_takeWhile_imp member
  refine yields_digits ?_
  have stops := Scanner.stops_dropWhile Char.isDigit unread
  unfold Scanner.spanDigitsPoint Decimal.spanDigits
  simp only
  split
  · next afterPoint found =>
      rw [found, List.countP_append, List.countP_cons_of_neg (by decide), counted, counted,
        ← Nat.add_assoc]
      refine yields_point (yields_digits (yields_digits_end ?_ (.inl rfl)))
      exact Scanner.stops_dropWhile Char.isDigit afterPoint
  · next noPoint =>
      rw [counted]
      refine yields_digits_end stops (.inr fun point => ?_)
      obtain ⟨rest, found⟩ := List.head?_eq_some_iff.mp point
      exact noPoint rest found

theorem yields_numeral :
    Yields text numeral unread
      (.ok ((Scanner.spanNumber unread).1.countP Char.isDigit,
        (Scanner.spanNumber unread).2)) := by
  refine yields_peek.andThen ?_
  by_cases minus : unread.head? = some '-'
  · obtain ⟨unsigned, rfl⟩ := List.head?_eq_some_iff.mp minus
    rw [if_pos minus]
    refine (yields_advance '-').andThen ?_
    have spanned := yields_unsigned 0 text unsigned
    rw [Nat.zero_add] at spanned
    exact spanned
  · have unsigned : Scanner.spanNumber unread = Scanner.spanDigitsPoint unread := by
      unfold Scanner.spanNumber
      split
      · exact absurd rfl minus
      · rfl
    have spanned := yields_unsigned 0 text unread
    rw [Nat.zero_add, ← unsigned] at spanned
    rw [if_neg minus]
    exact spanned

end Digits

theorem toLower_of_isDigit {c : Char} (digit : c.isDigit = true) : c.toLower = c := by
  simp only [Char.isDigit, Bool.and_eq_true, decide_eq_true_eq] at digit
  unfold Char.toLower
  grind

/-- A number in digits is none of the words that stand for a double. -/
theorem lower_ne_of_magnitude {digits body : List Char} {places : Nat}
    (magnitude : Grammar.Magnitude digits places body) {word : String}
    (letters : word.toList.any Char.isDigit = false) :
    String.ofList (Numeral.lower body) ≠ word := by
  rintro rfl
  obtain ⟨c, member, digit⟩ := List.any_eq_true.mp (Scanner.any_isDigit_of_magnitude magnitude)
  have among : c ∈ Numeral.lower body :=
    List.mem_map.mpr ⟨c, member, toLower_of_isDigit digit⟩
  rw [String.toList_ofList, List.any_eq_false] at letters
  exact letters c among digit

/-- Digits with a point, a sign in front of them or not, are a number to the reader of
doubles, whether or not there are digits on both sides of the point. -/
theorem float?_of_magnitude {digits body : List Char} {places : Nat} (negative : Bool)
    (magnitude : Grammar.Magnitude digits places body) :
    Numeral.float? (String.ofList (Grammar.sign negative ++ body)) =
      some (Arithmetic.ofDecimal ⟨negative, Decimal.valueOf digits, -(places : Int)⟩) := by
  have noWord : ∀ word ∈ ["inf", "infinity", "nan"],
      String.ofList (Numeral.lower body) ≠ word := by
    have letters : ∀ word ∈ ["inf", "infinity", "nan"], word.toList.any Char.isDigit = false := by
      decide
    exact fun word member => lower_ne_of_magnitude magnitude (letters word member)
  unfold Numeral.float?
  rw [String.toList_ofList, Scanner.spanSign_of_magnitude magnitude]
  simp only [noWord "inf" (by simp), noWord "infinity" (by simp), noWord "nan" (by simp), or_self,
    if_false]
  rw [Scanner.readMagnitude_of_magnitude magnitude]
  rfl

theorem realizes_number : Realizes number (Condition.readBound (α := Float)) := by
  intro text unread
  refine yields_skipBlanks.andThen (.of_suffix fun suffix => ?_)
  refine yields_position.andThen (yields_numeral.andThen ?_)
  unfold Condition.readBound Scanner.number
  cases spanned : Scanner.spanNumber (Text.skipBlanks unread) with
  | mk lexeme rest =>
      simp only [spanned]
      have counted : lexeme.countP Char.isDigit = 0 ↔ lexeme.any Char.isDigit = false :=
        List.countP_eq_zero.trans List.any_eq_false.symm
      cases digit : lexeme.any Char.isDigit with
      | false =>
          rw [if_pos (counted.mpr digit)]
          exact yields_refuseAt rfl
      | true =>
          have some_digit : ¬ lexeme.countP Char.isDigit = 0 := by
            rw [counted, digit]
            exact Bool.noConfusion
          obtain ⟨parts, negative, body, digits, places, rfl, magnitude⟩ :=
            Scanner.magnitude_of_spanNumber spanned digit
          rw [parts] at suffix ⊢
          rw [if_neg some_digit]
          refine (yields_sliceFrom _ suffix).andThen ?_
          rw [float?_of_magnitude negative magnitude, Scanner.spanSign_of_magnitude magnitude]
          simp only [Scanner.readMagnitude_of_magnitude magnitude]
          exact yields_pure _

/-! ## Objects -/

/-- What a character of an object's text leads to. -/
inductive Turn where
  | goesOn (depth : Nat) (within : Scanner.Within)
  | closes
  | belowZero
  deriving DecidableEq, Repr

def turn (depth : Nat) : Scanner.Within → Char → Turn
  | .escape, _ => .goesOn depth .string
  | .string, c =>
      .goesOn depth (if c = '\\' then .escape else if c = '"' then .object else .string)
  | .object, c =>
      if c = '"' then .goesOn depth .string
      else if c = '\x7b' then .goesOn (depth + 1) .object
      else if c = '\x7d' then
        if depth = 0 then .belowZero
        else if depth - 1 = 0 then .closes
        else .goesOn (depth - 1) .object
      else .goesOn depth .object

/-- Passes over a character of an object's text, until its last brace is closed. -/
def braceRound : Nat × Scanner.Within → Cursor (Round (Nat × Scanner.Within) Bool)
  | (depth, within) => do
      match ← advance with
      | none => return .leave false
      | some c =>
          match turn depth within c with
          | .goesOn depth within => return .again (depth, within)
          | .closes => return .leave true
          | .belowZero => mishap .depthBelowZero

def object : Cursor String := do
  skipBlanks
  let start ← position
  if (← peek) = some '\x7b' then
    if ← loop braceRound (0, .object) then return String.ofList (← sliceFrom start)
    else refuseAt start .closedObject
  else refuse (.word "'\x7b'")

/-- What the scan of an object comes to, without the text that it found. -/
def braceOutcome : Option (List Char × List Char) → Except Refusal (Bool × List Char)
  | some (_, rest) => .ok (true, rest)
  | none => .ok (false, [])

theorem braceOutcome_push (c : Char) (found : Option (List Char × List Char)) :
    braceOutcome (Scanner.objectText?.push c found) = braceOutcome found := by
  cases found with
  | none => rfl
  | some pair => rfl

/-- Within an object a character leads on within it, or closes it: the depth is at least
one, and so no brace is counted below zero. -/
theorem turn_cases {depth : Nat} (opened : 0 < depth) (within : Scanner.Within) (c : Char)
    (rest : List Char) :
    (∃ inner next, 0 < inner ∧ turn depth within c = .goesOn inner next ∧
      Scanner.objectText? depth within (c :: rest) =
        Scanner.objectText?.push c (Scanner.objectText? inner next rest)) ∨
    (turn depth within c = .closes ∧
      Scanner.objectText? depth within (c :: rest) = some ([c], rest)) := by
  cases within with
  | escape => exact .inl ⟨depth, .string, opened, rfl, rfl⟩
  | string => exact .inl ⟨depth, _, opened, rfl, rfl⟩
  | object =>
      rw [turn, Scanner.objectText?]
      by_cases quote : c = '"'
      · exact .inl ⟨depth, .string, opened, if_pos quote, if_pos quote⟩
      rw [if_neg quote, if_neg quote]
      by_cases opening : c = '\x7b'
      · exact .inl ⟨depth + 1, .object, Nat.succ_pos depth, if_pos opening, if_pos opening⟩
      rw [if_neg opening, if_neg opening]
      by_cases closing : c = '\x7d'
      · rw [if_pos closing, if_pos closing, if_neg opened.ne']
        by_cases last : depth ≤ 1
        · exact .inr ⟨if_pos (by omega), if_pos last⟩
        · exact .inl ⟨depth - 1, .object, by omega, if_neg (by omega), if_neg last⟩
      · exact .inl ⟨depth, .object, opened, if_neg closing, if_neg closing⟩

theorem yields_braces {depth : Nat} {within : Scanner.Within} (opened : 0 < depth) :
    Yields text (loop braceRound (depth, within)) unread
      (braceOutcome (Scanner.objectText? depth within unread)) := by
  induction unread generalizing depth within with
  | nil =>
      have nothing : Scanner.objectText? depth within [] = none := by cases within <;> rfl
      rw [nothing]
      exact yields_loop_leave (yields_advance_nil.andThen (yields_pure _))
  | cons c rest ih =>
      rcases turn_cases opened within c rest with ⟨inner, next, still, turned, scanned⟩ |
        ⟨turned, scanned⟩
      · rw [scanned, braceOutcome_push]
        refine yields_loop_again ((yields_advance c).andThen ?_) (Nat.lt_succ_self _) (ih still)
        simp only [turned]
        exact yields_pure _
      · rw [scanned]
        refine yields_loop_leave ((yields_advance c).andThen ?_)
        simp only [turned]
        exact yields_pure _

theorem realizes_object : Realizes object Scanner.object := by
  intro text unread
  refine yields_skipBlanks.andThen (.of_suffix fun suffix => ?_)
  refine yields_position.andThen (yields_peek.andThen ?_)
  unfold Scanner.object
  by_cases brace : (Text.skipBlanks unread).head? = some '\x7b'
  · obtain ⟨inside, starts⟩ := List.head?_eq_some_iff.mp brace
    rw [if_pos brace]
    rw [starts] at suffix ⊢
    have scanned : Yields text (loop braceRound (0, .object)) ('\x7b' :: inside)
        (braceOutcome (Scanner.objectText? 0 .object ('\x7b' :: inside))) := by
      rw [Scanner.objectText?, if_neg (by decide), if_pos rfl, braceOutcome_push]
      refine yields_loop_again ?_ (Nat.lt_succ_self _) (yields_braces Nat.one_pos)
      exact (yields_advance '\x7b').andThen (yields_pure _)
    simp only
    cases found : Scanner.objectText? 0 .object ('\x7b' :: inside) with
    | none =>
        rw [found] at scanned
        exact scanned.andThen (yields_refuseAt rfl)
    | some pair =>
        obtain ⟨token, rest⟩ := pair
        obtain ⟨parts, _⟩ := Scanner.objectText_local found
        rw [found] at scanned
        rw [parts] at scanned suffix ⊢
        exact scanned.andThen ((yields_sliceFrom token suffix).andThen (yields_pure _))
  · rw [if_neg brace]
    split
    · next inside starts =>
        rw [starts] at brace
        exact absurd rfl brace
    · exact yields_refuse _

end Cursor

end DailySignals
