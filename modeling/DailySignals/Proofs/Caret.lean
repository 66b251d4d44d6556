import DailySignals.Proofs.Scoring.Recovery

/-!
# Where the caret of a fault stands

A fault is shown as the text, a line with a caret below it, and the message.  In
front of the caret there are as many blanks as the text has bytes in front of the
reported place.  So the caret stands below the character at that place if all
characters in front of it take one byte, and right of it otherwise.
-/

set_option autoImplicit false

namespace DailySignals

namespace Refusal

theorem length_le_byteSize (text : List Char) : text.length ≤ byteSize text := by
  induction text with
  | nil => exact Nat.le_refl _
  | cons c text ih =>
      have positive := c.utf8Size_pos
      unfold byteSize at ih ⊢
      rw [List.length_cons, List.foldr_cons]
      omega

/-- Bytes and characters are equally many where every character is a single byte. -/
theorem byteSize_eq_length_iff {text : List Char} :
    byteSize text = text.length ↔ ∀ c ∈ text, c.utf8Size = 1 := by
  induction text with
  | nil => exact ⟨nofun, fun _ => rfl⟩
  | cons c text ih =>
      have positive := c.utf8Size_pos
      have atLeast := length_le_byteSize text
      have split : byteSize (c :: text) = c.utf8Size + byteSize text := rfl
      rw [List.forall_mem_cons, ← ih, split, List.length_cons]
      omega

end Refusal

namespace SyntaxFault

/-- The line below a text of one line. -/
def caretLine (shown : String) : List Char :=
  (shown.toList.splitOn '\n').getD 1 []

/-- The number of characters in front of the caret. -/
def caretColumn (shown : String) : Nat :=
  (caretLine shown).idxOf '^'

variable {text : String}

theorem caretLine_withContext (fault : SyntaxFault) (single : '\n' ∉ text.toList) :
    caretLine (fault.withContext text) = List.replicate fault.position ' ' ++ ['^'] := by
  have lines : (fault.withContext text).toList =
      text.toList ++ '\n' ::
        ((List.replicate fault.position ' ' ++ ['^']) ++ '\n' :: fault.text.toList) := by
    simp only [withContext, String.toList_append, String.toList_ofList, List.append_assoc]
    rfl
  have textLine : ∀ c ∈ text.toList, (c == '\n') = false := by
    intro c member
    exact beq_eq_false_iff_ne.mpr fun same => single (same ▸ member)
  have below : ∀ c ∈ List.replicate fault.position ' ' ++ ['^'], (c == '\n') = false := by
    intro c member
    rcases List.mem_append.mp member with blank | caret
    · rw [List.eq_of_mem_replicate blank]
      rfl
    · rw [List.mem_singleton.mp caret]
      rfl
  rw [caretLine, lines, List.splitOn,
    List.splitOnP_append_cons_of_forall_mem textLine '\n' BEq.rfl,
    List.splitOnP_append_cons_of_forall_mem below '\n' BEq.rfl]
  rfl

/-- The caret is put by bytes. -/
theorem caretColumn_withContext (fault : SyntaxFault) (single : '\n' ∉ text.toList) :
    caretColumn (fault.withContext text) = fault.position := by
  have noCaret : '^' ∉ List.replicate fault.position ' ' := by
    intro member
    cases List.eq_of_mem_replicate member
  rw [caretColumn, caretLine_withContext fault single, List.idxOf_append_of_notMem noCaret,
    List.length_replicate]
  rfl

/-- A text that cannot be read as conditions, or as the rules of a side. -/
inductive Refuses (α : Type) [Arithmetic α] (text : String) (fault : SyntaxFault) : Prop
  | conditions (failed : ConditionSet.parse (α := α) text = .error fault)
  | rules (side : RuleSide) (failed : ScoringRule.parseList (α := α) side text = .error fault)

/-- What a text has in front of a place that is given in bytes. -/
structure InFront (text : String) (position : Nat) (before : String) : Prop where
  starts : ∃ after, text = before ++ after
  size : before.utf8ByteSize = position

variable {α : Type} [Arithmetic α]

theorem Refuses.inFront {fault : SyntaxFault} (refuses : Refuses α text fault) :
    ∃ before, InFront text fault.position before := by
  cases refuses with
  | conditions failed =>
      obtain ⟨before, after, _, parts, size, _⟩ :=
        (ConditionSet.parse_recoverable failed).completed
      exact ⟨before, ⟨after, parts⟩, size⟩
  | rules side failed =>
      obtain ⟨before, after, _, parts, size, _⟩ :=
        (ScoringRule.parseList_recoverable failed).completed
      exact ⟨before, ⟨after, parts⟩, size⟩

/-- Below a text of one line that cannot be read there is a line of blanks and a
caret.  In front of the caret are no fewer characters than in front of the reported
place of the text, and as many exactly if those in the text are single bytes. -/
theorem caret_below_place_iff {fault : SyntaxFault} (refuses : Refuses α text fault)
    (single : '\n' ∉ text.toList) :
    caretLine (fault.withContext text) = List.replicate fault.position ' ' ++ ['^'] ∧
      (∃ before, InFront text fault.position before) ∧
      ∀ before, InFront text fault.position before →
        before.length ≤ caretColumn (fault.withContext text) ∧
          (caretColumn (fault.withContext text) = before.length ↔
            ∀ c ∈ before.toList, c.utf8Size = 1) := by
  refine ⟨caretLine_withContext fault single, refuses.inFront, ?_⟩
  intro before inFront
  have bytes : caretColumn (fault.withContext text) = Refusal.byteSize before.toList := by
    rw [caretColumn_withContext fault single, ← inFront.size, Scanner.byteSize_eq,
      String.ofList_toList]
  rw [bytes, ← String.length_toList]
  exact ⟨Refusal.length_le_byteSize before.toList, Refusal.byteSize_eq_length_iff⟩

/-- What stands behind the place may have several bytes: here the caret is below the
letter that should have been a comma. -/
theorem caret_below_place_iff_letter :
    let text := "ALL(GT(score \u00e9))"
    let fault : SyntaxFault := ⟨"expected ',', found '\u00e9'", 13⟩
    Refuses Float text fault ∧ '\n' ∉ text.toList ∧ InFront text 13 "ALL(GT(score " ∧
      caretColumn (fault.withContext text) = "ALL(GT(score ".length := by
  intro text fault
  have refuses : Refuses Float text fault := .conditions (by decide +kernel)
  have single : '\n' ∉ text.toList := by decide
  have inFront : InFront text 13 "ALL(GT(score " := ⟨⟨"\u00e9))", rfl⟩, rfl⟩
  have singleBytes : ∀ c ∈ "ALL(GT(score ".toList, c.utf8Size = 1 :=
    Refusal.byteSize_eq_length_iff.mp rfl
  obtain ⟨_, _, below⟩ := caret_below_place_iff refuses single
  exact ⟨refuses, single, inFront, (below _ inFront).2.mpr singleBytes⟩

/-- A letter of two bytes in front of the place puts the caret below the character
behind it. -/
theorem caret_right_of_place :
    let text := "ALL(MARKET(\u00e9), GT(score 5))"
    let before := "ALL(MARKET(\u00e9), GT(score "
    let fault : SyntaxFault := ⟨"expected ',', found '5'", 25⟩
    Refuses Float text fault ∧ '\n' ∉ text.toList ∧ InFront text fault.position before ∧
      caretColumn (fault.withContext text) ≠ before.length := by
  intro text before fault
  have single : '\n' ∉ text.toList := by decide
  refine ⟨.conditions (by decide +kernel), single, ⟨⟨"5))", rfl⟩, rfl⟩, ?_⟩
  rw [caretColumn_withContext fault single]
  decide

end SyntaxFault

end DailySignals
