import DailySignals.Proofs.Condition.Prefix

/-!
# Moving a position through a text

The steps of a reader take their tokens off the head of a text.  Here the text stays
as it is and a position in bytes moves through it, which lets things go wrong that
cannot go wrong there: a position may lie inside a character, a slice may have bad
ends, a loop may stand still.  Each of them is an outcome of its own (`Mishap`), apart
from the faults of a text.  `Yields` says that a cursor does at a place what a step
does with the text from there on, and so comes to no mishap.
-/

set_option autoImplicit false

namespace DailySignals

open Refusal (byteSize)
open Scanner (byteSize_append)

namespace Cursor

/-- What must not happen on any text. -/
inductive Mishap where
  /-- A position beyond the end of the text or inside a character. -/
  | offBoundary (position : Nat)
  /-- A slice with ends that are no boundaries of characters or stand the wrong way round. -/
  | badSlice (start stop : Nat)
  /-- A loop that goes on without having moved forward. -/
  | standstill (position : Nat)
  /-- A closing brace that is counted where no object is open. -/
  | depthBelowZero
  /-- Characters that were taken for a number and cannot be read as one. -/
  | noNumber (lexeme : List Char)
  /-- A keyword that is missing where it was seen before. -/
  | keywordGone (word : String)
  deriving DecidableEq, Repr

/-- Why reading ends without a value. -/
inductive Halt where
  | fault (fault : SyntaxFault)
  | mishap (mishap : Mishap)
  deriving DecidableEq, Repr

/-- What is in front of a position and behind it, if the position is a boundary. -/
def splitAt? : (text : List Char) → (position : Nat) → Option (List Char × List Char)
  | text, 0 => some ([], text)
  | [], _ + 1 => none
  | c :: text, position + 1 =>
      if c.utf8Size ≤ position + 1 then
        (splitAt? text (position + 1 - c.utf8Size)).map fun (before, after) => (c :: before, after)
      else none

/-- What stands between two positions. -/
def slice? (text : List Char) (start stop : Nat) : Option (List Char) := do
  let (before, _) ← splitAt? text stop
  let (_, middle) ← splitAt? before start
  return middle

/-- The position at which the unread end of a text starts. -/
def place (text unread : List Char) : Nat :=
  byteSize text - byteSize unread

theorem splitAt?_eq_some_iff {text before after : List Char} {position : Nat} :
    splitAt? text position = some (before, after) ↔
      text = before ++ after ∧ byteSize before = position := by
  fun_induction splitAt? text position generalizing before with
  | case1 text =>
      constructor
      · rintro ⟨⟩
        exact ⟨rfl, rfl⟩
      · rintro ⟨rfl, empty⟩
        cases before with
        | nil => rfl
        | cons c before =>
            have positive := c.utf8Size_pos
            simp only [byteSize, List.foldr_cons] at empty
            omega
  | case2 position =>
      constructor
      · intro found
        cases found
      · rintro ⟨parts, size⟩
        obtain ⟨rfl, rfl⟩ := List.append_eq_nil_iff.mp parts.symm
        cases size
  | case3 position c text fits ih =>
      simp only [Option.map_eq_some_iff, Prod.exists, Prod.mk.injEq]
      constructor
      · rintro ⟨before, after, found, rfl, rfl⟩
        obtain ⟨rfl, size⟩ := ih.mp found
        refine ⟨rfl, ?_⟩
        simp only [byteSize, List.foldr_cons] at size ⊢
        omega
      · rintro ⟨parts, size⟩
        cases before with
        | nil => cases size
        | cons d before =>
            cases parts
            refine ⟨before, after, ih.mpr ⟨rfl, ?_⟩, rfl, rfl⟩
            simp only [byteSize, List.foldr_cons] at size ⊢
            omega
  | case4 position c text tooLong =>
      constructor
      · intro found
        cases found
      · rintro ⟨parts, size⟩
        cases before with
        | nil => cases size
        | cons d before =>
            cases parts
            simp only [byteSize, List.foldr_cons] at size
            omega

/-- A text can be split at the boundaries of its characters, up to its end. -/
theorem isSome_splitAt?_iff {text : String} {position : Nat} :
    (splitAt? text.toList position).isSome ↔ String.Pos.Raw.IsValid text ⟨position⟩ := by
  rw [String.Pos.Raw.isValid_iff_exists_append, Option.isSome_iff_exists]
  constructor
  · rintro ⟨⟨before, after⟩, found⟩
    obtain ⟨parts, size⟩ := splitAt?_eq_some_iff.mp found
    refine ⟨String.ofList before, String.ofList after, ?_, ?_⟩
    · rw [← String.ofList_append, ← parts, String.ofList_toList]
    · rw [← size, Scanner.byteSize_eq]
      rfl
  · rintro ⟨before, after, rfl, size⟩
    refine ⟨(before.toList, after.toList), splitAt?_eq_some_iff.mpr ⟨?_, ?_⟩⟩
    · rw [String.toList_append]
    · rw [Scanner.byteSize_eq, String.ofList_toList]
      exact (congrArg String.Pos.Raw.byteIdx size).symm

/-- The second byte of a character is no boundary. -/
example : splitAt? ['é', 'a'] 1 = none := by decide

theorem place_append (before unread : List Char) :
    place (before ++ unread) unread = byteSize before := by
  rw [place, byteSize_append, Nat.add_sub_cancel]

theorem splitAt?_place (before unread : List Char) :
    splitAt? (before ++ unread) (place (before ++ unread) unread) = some (before, unread) :=
  splitAt?_eq_some_iff.mpr ⟨rfl, (place_append before unread).symm⟩

theorem slice?_append (before middle after : List Char) :
    slice? (before ++ (middle ++ after)) (byteSize before) (byteSize (before ++ middle)) =
      some middle := by
  have stop : splitAt? (before ++ (middle ++ after)) (byteSize (before ++ middle)) =
      some (before ++ middle, after) :=
    splitAt?_eq_some_iff.mpr ⟨(List.append_assoc before middle after).symm, rfl⟩
  have start : splitAt? (before ++ middle) (byteSize before) = some (before, middle) :=
    splitAt?_eq_some_iff.mpr ⟨rfl, rfl⟩
  unfold slice?
  rw [stop, Option.bind_eq_bind, Option.bind_some]
  simp only [start]
  rfl

/-! ## Cursors -/

end Cursor

/-- A computation that moves a position through a text. -/
def Cursor (β : Type) : Type :=
  (text : List Char) → (position : Nat) → Except Cursor.Halt (β × Nat)

namespace Cursor

variable {β γ σ : Type}

instance : Monad Cursor where
  pure value := fun _ position => .ok (value, position)
  bind first next := fun text position =>
    match first text position with
    | .ok (value, reached) => next value text reached
    | .error halt => .error halt

def whole : Cursor (List Char) := fun text position => .ok (text, position)

def position : Cursor Nat := fun _ position => .ok (position, position)

def mishap (kind : Mishap) : Cursor β := fun _ _ => .error (.mishap kind)

/-- Moves the position, to a boundary only. -/
def goTo (next : Nat) : Cursor Unit := fun text _ =>
  match splitAt? text next with
  | some _ => .ok ((), next)
  | none => .error (.mishap (.offBoundary next))

def slice (source : List Char) (start stop : Nat) : Cursor (List Char) :=
  match slice? source start stop with
  | some middle => pure middle
  | none => mishap (.badSlice start stop)

/-- The text from the position on. -/
def remaining : Cursor (List Char) := do
  let text ← whole
  slice text (← position) (byteSize text)

/-- The text from a start up to the position. -/
def sliceFrom (start : Nat) : Cursor (List Char) := do
  slice (← whole) start (← position)

/-- A fault at a start, which the text at the position contradicts. -/
def refuseAt (start : Nat) (expected : Expectation) : Cursor β := do
  let unread ← remaining
  fun _ _ => .error (.fault ⟨Refusal.message ⟨expected, unread⟩, start⟩)

def refuse (expected : Expectation) : Cursor β := do
  refuseAt (← position) expected

/-- How a round of a loop ends. -/
inductive Round (σ β : Type) where
  | again (state : σ)
  | leave (result : β)

/-- Rounds until one leaves the loop, each from where the one before it went.  It ends
because a round that has not moved the position forward is not followed by another. -/
def loopFrom (round : σ → Cursor (Round σ β)) (state : σ) (text : List Char) (position : Nat) :
    Except Halt (β × Nat) :=
  match round state text position with
  | .error halt => .error halt
  | .ok (.leave result, reached) => .ok (result, reached)
  | .ok (.again next, reached) =>
      if position < reached ∧ reached ≤ byteSize text then loopFrom round next text reached
      else .error (.mishap (.standstill reached))
termination_by byteSize text - position

def loop (round : σ → Cursor (Round σ β)) (state : σ) : Cursor β :=
  loopFrom round state

/-! ## Cursors and steps -/

variable {text unread rest : List Char}

/-- The outcome of a step in positions of the text. -/
def outcomeIn (text : List Char) : Except Refusal (β × List Char) → Except Halt (β × Nat)
  | .ok (value, rest) => .ok (value, place text rest)
  | .error refusal => .error (.fault (refusal.toFault text))

/-- Where an end of the text is unread, a cursor has the outcome of a step that is left
with an end of it in turn. -/
def Yields (text : List Char) (cursor : Cursor β) (unread : List Char)
    (outcome : Except Refusal (β × List Char)) : Prop :=
  unread <:+ text →
    cursor text (place text unread) = outcomeIn text outcome ∧
      ∀ value rest, outcome = .ok (value, rest) → rest <:+ unread

/-- A cursor does everywhere what a step does. -/
def Realizes (cursor : Cursor β) (step : Step β) : Prop :=
  ∀ text unread, Yields text cursor unread (step unread)

theorem Yields.of_suffix {cursor : Cursor β} {outcome : Except Refusal (β × List Char)}
    (yields : unread <:+ text → Yields text cursor unread outcome) :
    Yields text cursor unread outcome :=
  fun suffix => yields suffix suffix

theorem yields_ok {cursor : Cursor β} {value : β}
    (moved : unread <:+ text → cursor text (place text unread) = .ok (value, place text rest))
    (ends : rest <:+ unread) : Yields text cursor unread (.ok (value, rest)) := by
  intro suffix
  refine ⟨moved suffix, ?_⟩
  rintro _ _ ⟨⟩
  exact ends

theorem yields_pure (value : β) : Yields text (pure value) unread (.ok (value, unread)) :=
  yields_ok (fun _ => rfl) (List.suffix_refl unread)

theorem Yields.bind {first : Cursor β} {next : β → Cursor γ}
    {outcome : Except Refusal (β × List Char)}
    {after : β × List Char → Except Refusal (γ × List Char)}
    (head : Yields text first unread outcome)
    (tail : ∀ value rest, outcome = .ok (value, rest) →
      Yields text (next value) rest (after (value, rest))) :
    Yields text (first >>= next) unread (outcome >>= after) := by
  intro suffix
  obtain ⟨moved, ends⟩ := head suffix
  cases outcome with
  | error refusal =>
      refine ⟨?_, nofun⟩
      change (match first text (place text unread) with
        | .ok (value, reached) => next value text reached
        | .error halt => .error halt) = _
      rw [moved]
      rfl
  | ok found =>
      obtain ⟨value, rest⟩ := found
      have further := ends value rest rfl
      obtain ⟨result, finally_⟩ := tail value rest rfl (further.trans suffix)
      refine ⟨?_, fun last final same => (finally_ last final same).trans further⟩
      change (match first text (place text unread) with
        | .ok (value, reached) => next value text reached
        | .error halt => .error halt) = _
      rw [moved]
      exact result

/-- A cursor behind one that has come through. -/
theorem Yields.andThen {first : Cursor β} {next : β → Cursor γ} {value : β}
    {outcome : Except Refusal (γ × List Char)}
    (head : Yields text first unread (.ok (value, rest)))
    (tail : Yields text (next value) rest outcome) :
    Yields text (first >>= next) unread outcome := by
  have both : Yields text (first >>= next) unread
      (Except.ok (value, rest) >>= fun _ => outcome) := by
    refine head.bind ?_
    rintro _ _ ⟨⟩
    exact tail
  exact both

theorem Yields.halt {first : Cursor β} {next : β → Cursor γ} {refusal : Refusal}
    (head : Yields text first unread (.error refusal)) :
    Yields text (first >>= next) unread (.error refusal) := by
  have both : Yields text (first >>= next) unread
      (Except.error refusal >>= fun _ => .error refusal) := head.bind nofun
  exact both

theorem Realizes.bind {first : Cursor β} {next : β → Cursor γ} {step : Step β}
    {after : β × List Char → Except Refusal (γ × List Char)} (head : Realizes first step)
    (tail : ∀ value, Realizes (next value) fun rest => after (value, rest)) :
    Realizes (first >>= next) fun unread => step unread >>= after :=
  fun text unread => (head text unread).bind fun value rest _ => tail value text rest

theorem realizes_pure (value : β) : Realizes (pure value) fun unread => pure (value, unread) :=
  fun _ _ => yields_pure value

/-! ## What the primitives do -/

theorem yields_whole : Yields text whole unread (.ok (text, unread)) :=
  yields_ok (fun _ => rfl) (List.suffix_refl unread)

theorem yields_position : Yields text position unread (.ok (place text unread, unread)) :=
  yields_ok (fun _ => rfl) (List.suffix_refl unread)

theorem yields_goTo (ends : rest <:+ unread) :
    Yields text (goTo (place text rest)) unread (.ok ((), rest)) := by
  refine yields_ok ?_ ends
  intro suffix
  obtain ⟨before, rfl⟩ := ends.trans suffix
  simp only [goTo, splitAt?_place]

/-- A character that was passed over has moved the position by its size. -/
theorem yields_goTo_behind (token : List Char) :
    Yields text (goTo (place text (token ++ rest) + byteSize token)) (token ++ rest)
      (.ok ((), rest)) := by
  refine .of_suffix ?_
  rintro ⟨before, rfl⟩
  have moved : place (before ++ (token ++ rest)) (token ++ rest) + byteSize token =
      place (before ++ (token ++ rest)) rest := by
    rw [place_append, ← List.append_assoc, place_append, byteSize_append]
  rw [moved]
  exact yields_goTo (List.suffix_append token rest)

theorem yields_slice {source middle : List Char} {start stop : Nat}
    (sliced : slice? source start stop = some middle) :
    Yields text (slice source start stop) unread (.ok (middle, unread)) := by
  rw [slice, sliced]
  exact yields_pure middle

theorem yields_remaining : Yields text remaining unread (.ok (unread, unread)) := by
  refine .of_suffix ?_
  rintro ⟨before, rfl⟩
  refine yields_whole.andThen (yields_position.andThen (yields_slice ?_))
  have sliced := slice?_append before unread []
  rw [List.append_nil] at sliced
  rw [place_append]
  exact sliced

theorem yields_sliceFrom (token : List Char) (starts : token ++ rest <:+ text) :
    Yields text (sliceFrom (place text (token ++ rest))) rest (.ok (token, rest)) := by
  obtain ⟨before, rfl⟩ := starts
  refine yields_whole.andThen (yields_position.andThen (yields_slice ?_))
  rw [place_append, ← List.append_assoc, place_append, List.append_assoc]
  exact slice?_append before token rest

theorem yields_refuseAt {expected : Expectation} {start : List Char}
    (same : Refusal.message ⟨expected, unread⟩ = Refusal.message ⟨expected, start⟩) :
    Yields text (refuseAt (place text start) expected : Cursor β) unread
      (.error ⟨expected, start⟩) := by
  have fails : Yields text
      (fun _ _ => .error (.fault ⟨Refusal.message ⟨expected, unread⟩, place text start⟩) : Cursor β)
      unread (.error ⟨expected, start⟩) := by
    intro _
    refine ⟨?_, nofun⟩
    rw [same]
    rfl
  exact yields_remaining.andThen fails

theorem yields_refuse (expected : Expectation) :
    Yields text (refuse expected : Cursor β) unread (.error ⟨expected, unread⟩) :=
  yields_position.andThen (yields_refuseAt rfl)

/-! ## Rounds of a loop -/

variable {round : σ → Cursor (Round σ β)} {state next : σ}

theorem yields_loop_leave {result : β}
    (left : Yields text (round state) unread (.ok (.leave result, rest))) :
    Yields text (loop round state) unread (.ok (result, rest)) := by
  intro suffix
  obtain ⟨moved, ends⟩ := left suffix
  refine ⟨?_, ?_⟩
  · rw [loop, loopFrom, moved]
    rfl
  · rintro _ _ ⟨⟩
    exact ends _ _ rfl

theorem yields_loop_halt {refusal : Refusal}
    (failed : Yields text (round state) unread (.error refusal)) :
    Yields text (loop round state) unread (.error refusal) := by
  intro suffix
  obtain ⟨halted, _⟩ := failed suffix
  refine ⟨?_, nofun⟩
  rw [loop, loopFrom, halted]
  rfl

/-- What is left of a text is shorter in bytes if it is shorter in characters. -/
theorem place_lt_of_shorter (ends : rest <:+ unread) (shorter : rest.length < unread.length)
    (suffix : unread <:+ text) : place text unread < place text rest := by
  obtain ⟨before, rfl⟩ := suffix
  obtain ⟨token, rfl⟩ := ends
  have taken : token ≠ [] := by
    rintro rfl
    exact Nat.lt_irrefl _ shorter
  obtain ⟨c, token, rfl⟩ := List.exists_cons_of_ne_nil taken
  have positive := c.utf8Size_pos
  rw [place_append, ← List.append_assoc, place_append, byteSize_append]
  simp only [byteSize, List.foldr_cons]
  omega

/-- A loop goes on behind a round that has read something. -/
theorem yields_loop_again {outcome : Except Refusal (β × List Char)}
    (went : Yields text (round state) unread (.ok (.again next, rest)))
    (shorter : rest.length < unread.length)
    (further : Yields text (loop round next) rest outcome) :
    Yields text (loop round state) unread outcome := by
  intro suffix
  obtain ⟨moved, ends⟩ := went suffix
  have shortened := ends _ _ rfl
  obtain ⟨result, endsLater⟩ := further (shortened.trans suffix)
  refine ⟨?_, fun value final same => (endsLater value final same).trans shortened⟩
  have forward := place_lt_of_shorter shortened shorter suffix
  have within : place text rest ≤ byteSize text := Nat.sub_le _ _
  rw [loop, loopFrom, moved]
  simp only [outcomeIn]
  rw [if_pos ⟨forward, within⟩]
  exact result

end Cursor

end DailySignals
