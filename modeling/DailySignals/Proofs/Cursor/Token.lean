import Mathlib.Data.List.Forall2
import DailySignals.Proofs.Cursor.Basic

/-!
# Tokens at a position

Marks, keywords, names and bare values, read by looking at the text from the position
on and moving the position over it.  Each cursor is followed by the law that it does
what the step of the same name does with the text that is left.
-/

set_option autoImplicit false

namespace DailySignals

open Refusal (byteSize)
open Scanner (byteSize_append isValueChar)
open Text (isBlank isNameChar)

namespace Cursor

variable {ρ σ : Type} {text unread rest : List Char}

/-- The next character, without moving. -/
def peek : Cursor (Option Char) := do
  return (← remaining).head?

/-- The next character, moving behind it. -/
def advance : Cursor (Option Char) := do
  match ← peek with
  | some c =>
      goTo ((← position) + c.utf8Size)
      return some c
  | none => return none

theorem yields_peek : Yields text peek unread (.ok (unread.head?, unread)) :=
  yields_remaining.andThen (yields_pure _)

theorem yields_advance (c : Char) : Yields text advance (c :: rest) (.ok (some c, rest)) :=
  yields_peek.andThen (yields_position.andThen
    ((yields_goTo_behind [c]).andThen (yields_pure (some c))))

theorem yields_advance_nil : Yields text advance [] (.ok (none, [])) :=
  yields_peek.andThen (yields_pure none)

/-! ## Runs of characters -/

def skipRound (belongs : Char → Bool) (_ : Unit) : Cursor (Round Unit Unit) := do
  match ← peek with
  | some c =>
      if belongs c then
        let _ ← advance
        return .again ()
      else return .leave ()
  | none => return .leave ()

/-- Passes over the characters of a class. -/
def skipWhile (belongs : Char → Bool) : Cursor Unit :=
  loop (skipRound belongs) ()

theorem yields_skipWhile (belongs : Char → Bool) :
    Yields text (skipWhile belongs) unread (.ok ((), unread.dropWhile belongs)) := by
  induction unread with
  | nil => exact yields_loop_leave (yields_peek.andThen (yields_pure _))
  | cons c rest ih =>
      by_cases inside : belongs c = true
      · rw [List.dropWhile_cons_of_pos inside]
        have passed : Yields text (skipRound belongs ()) (c :: rest) (.ok (.again (), rest)) := by
          refine yields_peek.andThen ?_
          rw [List.head?_cons]
          simp only [inside, if_true]
          exact (yields_advance c).andThen (yields_pure _)
        exact yields_loop_again passed (Nat.lt_succ_self _) ih
      · rw [List.dropWhile_cons_of_neg inside]
        refine yields_loop_leave (yields_peek.andThen ?_)
        rw [List.head?_cons]
        simp only [inside]
        exact yields_pure _

def skipBlanks : Cursor Unit :=
  skipWhile isBlank

theorem yields_skipBlanks :
    Yields text skipBlanks unread (.ok ((), Text.skipBlanks unread)) :=
  yields_skipWhile isBlank

/-! ## Marks and keywords -/

/-- One given character behind blanks. -/
def expectChar (wanted : Char) : Cursor Unit := do
  skipBlanks
  match ← peek with
  | some c =>
      if c = wanted then
        let _ ← advance
        return ()
      else refuse (.character wanted)
  | none => refuse (.character wanted)

/-- Takes the closing parenthesis, if it comes next. -/
def closeParen : Cursor Bool := do
  skipBlanks
  if (← peek) = some ')' then
    let _ ← advance
    return true
  else return false

/-- Whether only blanks are left. -/
def atEnd : Cursor Bool := do
  skipBlanks
  let here ← position
  return decide (byteSize (← whole) ≤ here)

/-- Whether a keyword comes next, and not a longer name. -/
def peekKeyword (word : String) : Cursor Bool := do
  let unread ← remaining
  if word.toList.isPrefixOf unread then
    if byteSize unread = byteSize word.toList then return true
    else
      let behind ← slice unread (byteSize word.toList) (byteSize unread)
      return !behind.head?.any isNameChar
  else return false

/-- Takes a keyword, if it comes next. -/
def consumeKeyword (word : String) : Cursor Bool := do
  if ← peekKeyword word then
    goTo ((← position) + byteSize word.toList)
    return true
  else return false

/-- The first of several keywords that a look at the text finds. -/
def firstOf (look : String → Cursor Bool) : List (String × ρ) → Cursor (Option (String × ρ))
  | [] => return none
  | (word, choice) :: choices => do
      if ← look word then return some (word, choice)
      else firstOf look choices

/-- A keyword that was seen to come next. -/
def expectKeyword (word : String) : Cursor Unit := do
  skipBlanks
  if ← consumeKeyword word then return ()
  else mishap (.keywordGone word)

theorem realizes_expectChar (wanted : Char) :
    Realizes (expectChar wanted) (Scanner.character wanted) := by
  intro text unread
  refine yields_skipBlanks.andThen (yields_peek.andThen ?_)
  unfold Scanner.character
  cases Text.skipBlanks unread with
  | nil => exact yields_refuse _
  | cons c rest =>
      rw [List.head?_cons]
      by_cases same : c = wanted
      · simp only [if_pos same]
        exact (yields_advance c).andThen (yields_pure ())
      · simp only [if_neg same]
        exact yields_refuse _

/-- A cursor that says whether a list is closed, and takes the mark that closes it. -/
structure Closes (closed : Cursor Bool) (close : List Char → Option (List Char)) : Prop where
  ends {text unread rest : List Char} : close unread = some rest →
    Yields text closed unread (.ok (true, rest))
  goesOn {text unread : List Char} : close unread = none →
    Yields text closed unread (.ok (false, Text.skipBlanks unread))

theorem closes_closeParen : Closes closeParen Scanner.closing? where
  ends := by
    intro text unread rest closed
    refine yields_skipBlanks.andThen (yields_peek.andThen ?_)
    rw [Scanner.closing_eq_some_iff.mp closed]
    exact (yields_advance ')').andThen (yields_pure true)
  goesOn := by
    intro text unread opened
    refine yields_skipBlanks.andThen (yields_peek.andThen ?_)
    have noMark : ¬ (Text.skipBlanks unread).head? = some ')' := by
      intro head
      obtain ⟨rest, next⟩ := List.head?_eq_some_iff.mp head
      rw [Scanner.closing_eq_some_iff.mpr next] at opened
      cases opened
    rw [if_neg noMark]
    exact yields_pure false

theorem closes_atEnd : Closes atEnd Scanner.finished? where
  ends := by
    intro text unread rest ended
    obtain ⟨nothing, rfl⟩ := Scanner.finished_eq_some_iff.mp ended
    refine yields_skipBlanks.andThen (yields_position.andThen (yields_whole.andThen ?_))
    rw [nothing]
    have last : byteSize text ≤ place text [] := Nat.le_refl _
    rw [decide_eq_true last]
    exact yields_pure true
  goesOn := by
    intro text unread more
    refine yields_skipBlanks.andThen (yields_position.andThen (yields_whole.andThen ?_))
    refine .of_suffix fun suffix => ?_
    have left : 0 < (Text.skipBlanks unread).length := by
      rw [List.length_pos_iff]
      intro nothing
      rw [Scanner.finished_eq_some_iff.mpr ⟨nothing, rfl⟩] at more
      cases more
    have notLast : ¬ byteSize text ≤ place text (Text.skipBlanks unread) :=
      Nat.not_le.mpr (place_lt_of_shorter List.nil_suffix left suffix)
    rw [decide_eq_false notLast]
    exact yields_pure false

theorem isSome_keyword?_append (word : String) (rest : List Char) :
    (Scanner.keyword? word (word.toList ++ rest)).isSome = !rest.head?.any isNameChar := by
  rw [Bool.eq_iff_iff, Option.isSome_iff_exists, Bool.not_eq_true', Option.any_eq_false]
  constructor
  · rintro ⟨other, found⟩
    obtain ⟨parts, stops⟩ := Scanner.keyword_eq_some_iff.mp found
    rw [List.append_cancel_left parts]
    exact stops
  · intro stops
    exact ⟨rest, Scanner.keyword_eq_some_iff.mpr ⟨rfl, stops⟩⟩

theorem yields_peekKeyword (word : String) (text unread : List Char) :
    Yields text (peekKeyword word) unread
      (.ok ((Scanner.keyword? word unread).isSome, unread)) := by
  refine yields_remaining.andThen ?_
  by_cases starts : word.toList.isPrefixOf unread = true
  · obtain ⟨rest, rfl⟩ := List.isPrefixOf_iff_prefix.mp starts
    rw [if_pos starts, isSome_keyword?_append]
    cases rest with
    | nil =>
        rw [List.append_nil, if_pos rfl]
        exact yields_pure true
    | cons c rest =>
        have positive := c.utf8Size_pos
        have longer : ¬ byteSize (word.toList ++ c :: rest) = byteSize word.toList := by
          rw [byteSize_append]
          simp only [byteSize, List.foldr_cons]
          omega
        rw [if_neg longer]
        have sliced := slice?_append word.toList (c :: rest) []
        rw [List.append_nil] at sliced
        exact (yields_slice sliced).andThen (yields_pure _)
  · rw [if_neg starts]
    have none : Scanner.keyword? word unread = none := by
      rw [Option.eq_none_iff_forall_ne_some]
      intro rest found
      obtain ⟨parts, _⟩ := Scanner.keyword_eq_some_iff.mp found
      exact starts (List.isPrefixOf_iff_prefix.mpr ⟨rest, parts.symm⟩)
    rw [none]
    exact yields_pure false

/-- A cursor that says whether a keyword comes next, and what it leaves where one does:
the text with the keyword, or without it. -/
structure Looks (look : String → Cursor Bool) (left : (unread rest : List Char) → List Char) :
    Prop where
  finds {text unread rest : List Char} {word : String} :
    Scanner.keyword? word unread = some rest →
      Yields text (look word) unread (.ok (true, left unread rest))
  misses {text unread : List Char} {word : String} :
    Scanner.keyword? word unread = none → Yields text (look word) unread (.ok (false, unread))

theorem looks_peekKeyword : Looks peekKeyword fun unread _ => unread where
  finds := by
    intro text unread rest word found
    have peeked := yields_peekKeyword word text unread
    rw [found] at peeked
    exact peeked
  misses := by
    intro text unread word missing
    have peeked := yields_peekKeyword word text unread
    rw [missing] at peeked
    exact peeked

theorem looks_consumeKeyword : Looks consumeKeyword fun _ rest => rest where
  finds := by
    intro text unread rest word found
    refine (looks_peekKeyword.finds found).andThen ?_
    obtain ⟨rfl, _⟩ := Scanner.keyword_eq_some_iff.mp found
    exact yields_position.andThen ((yields_goTo_behind word.toList).andThen (yields_pure true))
  misses := by
    intro text unread word missing
    exact (looks_peekKeyword.misses missing).andThen (yields_pure false)

/-- A keyword is there where it was seen, since no blanks were left in front of it. -/
theorem yields_expectKeyword {word : String} (starts : Text.skipBlanks unread = unread)
    (found : Scanner.keyword? word unread = some rest) :
    Yields text (expectKeyword word) unread (.ok ((), rest)) := by
  refine yields_skipBlanks.andThen ?_
  rw [starts]
  exact (looks_consumeKeyword.finds found).andThen (yields_pure ())

theorem select?_cons_some {word : String} {choice : ρ} (choices : List (String × ρ))
    (found : Scanner.keyword? word unread = some rest) :
    Scanner.select? ((word, choice) :: choices) unread = some (choice, rest) := by
  simp [Scanner.select?, found]

theorem select?_cons_none {word : String} (choice : ρ) (choices : List (String × ρ))
    (missing : Scanner.keyword? word unread = none) :
    Scanner.select? ((word, choice) :: choices) unread = Scanner.select? choices unread := by
  simp [Scanner.select?, missing]

/-- Choices by the same keywords, one like the other. -/
def Alike (like : ρ → σ → Prop) (first : List (String × ρ)) (second : List (String × σ)) : Prop :=
  List.Forall₂ (fun one other => one.1 = other.1 ∧ like one.2 other.2) first second

theorem alike_refl (choices : List (String × ρ)) : Alike Eq choices choices :=
  List.forall₂_same.mpr fun _ _ => ⟨rfl, rfl⟩

section Choices

variable {look : String → Cursor Bool} {left : (unread rest : List Char) → List Char}
  {like : ρ → σ → Prop} {first : List (String × ρ)} {second : List (String × σ)}

theorem Looks.yields_firstOf_some (looks : Looks look left) (alike : Alike like first second)
    {choice : σ} (chosen : Scanner.select? second unread = some (choice, rest)) :
    ∃ word own, like own choice ∧ Scanner.keyword? word unread = some rest ∧
      Yields text (firstOf look first) unread (.ok (some (word, own), left unread rest)) := by
  induction alike with
  | nil => cases chosen
  | @cons one other first second same _ ih =>
      obtain ⟨word, own⟩ := one
      obtain ⟨_, choice⟩ := other
      obtain ⟨rfl, similar⟩ := same
      cases found : Scanner.keyword? word unread with
      | some after =>
          rw [select?_cons_some second found] at chosen
          cases chosen
          exact ⟨word, own, similar, found, (looks.finds found).andThen (yields_pure _)⟩
      | none =>
          rw [select?_cons_none choice second found] at chosen
          obtain ⟨later, own, similar, laterFound, laterLook⟩ := ih chosen
          exact ⟨later, own, similar, laterFound, (looks.misses found).andThen laterLook⟩

theorem Looks.yields_firstOf_none (looks : Looks look left) (alike : Alike like first second)
    (nothing : Scanner.select? second unread = none) :
    Yields text (firstOf look first) unread (.ok (none, unread)) := by
  induction alike with
  | nil => exact yields_pure none
  | @cons one other first second same _ ih =>
      obtain ⟨word, own⟩ := one
      obtain ⟨_, choice⟩ := other
      obtain ⟨rfl, _⟩ := same
      cases found : Scanner.keyword? word unread with
      | some after =>
          rw [select?_cons_some second found] at nothing
          cases nothing
      | none =>
          rw [select?_cons_none choice second found] at nothing
          exact (looks.misses found).andThen (ih nothing)

end Choices

/-! ## Names and values -/

def identifier (what : String) : Cursor String := do
  skipBlanks
  let start ← position
  skipWhile isNameChar
  if (← position) = start then refuse (.word what)
  else return String.ofList (← sliceFrom start)

/-- A bare value.  What stops it is looked at behind it, where nothing was passed over
if the value is empty. -/
def value : Cursor String := do
  skipBlanks
  let start ← position
  skipWhile isValueChar
  let found := Text.trimChars (← sliceFrom start)
  if found.isEmpty then refuseAt start (.word "value")
  else return String.ofList found

/-- A position that has not changed is one behind which nothing was read. -/
theorem place_ne_of_taken {token : List Char} (taken : token ≠ []) (suffix : token ++ rest <:+ text) :
    ¬ place text rest = place text (token ++ rest) := by
  have shorter : rest.length < (token ++ rest).length := by
    rw [List.length_append]
    have positive := List.length_pos_iff.mpr taken
    omega
  have forward := place_lt_of_shorter (List.suffix_append token rest) shorter suffix
  omega

theorem realizes_identifier (what : String) :
    Realizes (identifier what) (Scanner.identifier what) := by
  intro text unread
  refine yields_skipBlanks.andThen (.of_suffix fun suffix => ?_)
  refine yields_position.andThen ((yields_skipWhile isNameChar).andThen ?_)
  refine yields_position.andThen ?_
  unfold Scanner.identifier
  have parts := List.takeWhile_append_dropWhile (p := isNameChar) (l := Text.skipBlanks unread)
  simp only
  generalize (Text.skipBlanks unread).takeWhile isNameChar = token at parts ⊢
  generalize (Text.skipBlanks unread).dropWhile isNameChar = rest at parts ⊢
  rw [← parts] at suffix ⊢
  cases token with
  | nil =>
      rw [List.nil_append, if_pos rfl]
      exact yields_refuse _
  | cons c token =>
      rw [if_neg (place_ne_of_taken (List.cons_ne_nil c token) suffix)]
      exact (yields_sliceFrom (c :: token) suffix).andThen (yields_pure _)

theorem trimChars_cons_ne_nil {c : Char} (notBlank : isBlank c = false) (token : List Char) :
    Text.trimChars (c :: token) ≠ [] := by
  have kept : Text.skipBlanks (c :: token) = c :: token := by
    rw [Text.skipBlanks, List.dropWhile_cons_of_neg (Bool.eq_false_iff.mp notBlank)]
  rw [Text.trimChars, kept]
  change (c :: token).rdropWhile isBlank ≠ []
  rw [Ne, List.rdropWhile_eq_nil_iff]
  intro allBlank
  rw [allBlank c List.mem_cons_self] at notBlank
  cases notBlank

theorem realizes_value : Realizes value Scanner.value := by
  intro text unread
  refine yields_skipBlanks.andThen (.of_suffix fun suffix => ?_)
  refine yields_position.andThen ((yields_skipWhile isValueChar).andThen ?_)
  unfold Scanner.value
  have parts := List.takeWhile_append_dropWhile (p := isValueChar) (l := Text.skipBlanks unread)
  have startsSolid := Text.skipBlanks_skipBlanks unread
  simp only
  generalize (Text.skipBlanks unread).takeWhile isValueChar = token at parts ⊢
  generalize (Text.skipBlanks unread).dropWhile isValueChar = rest at parts ⊢
  rw [← parts] at suffix startsSolid ⊢
  refine (yields_sliceFrom token suffix).andThen ?_
  cases trimmed : Text.trimChars token with
  | cons c found => exact yields_pure _
  | nil =>
      -- a value that is blank is empty, so the text behind it is the text in front of it
      cases token with
      | nil => exact yields_refuseAt rfl
      | cons c token =>
          have notBlank := Text.isBlank_of_skipBlanks_eq_cons startsSolid
          exact absurd trimmed (trimChars_cons_ne_nil notBlank token)

end Cursor

end DailySignals
