import DailySignals.Proofs.Cursor.Token
import DailySignals.Condition.Parser

/-!
# Lists at a position

A loop gathers the items of a list in the order in which it meets them, up to the mark
that closes it.  It does what the recursion over the items does, whatever it has
gathered before, and every round of it takes at least an item or a comma.
-/

set_option autoImplicit false

namespace DailySignals

open Scanner (furtherItems furtherItems_of_close furtherItems_of_comma isEnd_closing itemsUntil
  itemsInParentheses labelled listedUnder select?)

namespace Cursor

variable {β γ ρ : Type} {text unread rest : List Char}

/-! ## Items behind commas -/

/-- A further item behind a comma, unless the list is closed. -/
def listRound (closed : Cursor Bool) (item : Cursor β) (values : List β) :
    Cursor (Round (List β) (List β)) := do
  if ← closed then return .leave values
  else
    expectChar ','
    return .again (values ++ [← item])

/-- One or more items up to what closes their list. -/
def listUntil (closed : Cursor Bool) (item : Cursor β) : Cursor (List β) := do
  loop (listRound closed item) [← item]

theorem character_skipBlanks (wanted : Char) (text : List Char) :
    Scanner.character wanted (Text.skipBlanks text) = Scanner.character wanted text := by
  rw [Scanner.character, Scanner.character, Text.skipBlanks_skipBlanks]

section

variable {closed : Cursor Bool} {close : List Char → Option (List Char)} {cursor : Cursor β}
  {item : Item β}

theorem yields_comma (text unread : List Char) :
    Yields text (expectChar ',') (Text.skipBlanks unread) (Scanner.character ',' unread) := by
  have comma := realizes_expectChar ',' text (Text.skipBlanks unread)
  rw [character_skipBlanks] at comma
  exact comma

/-- A round of a list that goes on reads an item. -/
theorem yields_listRound (closes : Closes closed close) (items : Realizes cursor item.read)
    {value : Unit} {afterComma : List Char} (opened : close unread = none)
    (comma : Scanner.character ',' unread = .ok (value, afterComma)) (text : List Char)
    (values : List β) :
    Yields text (listRound closed cursor values) unread
      (item.read afterComma >>= fun found => pure (.again (values ++ [found.1]), found.2)) := by
  have taken := yields_comma text unread
  rw [comma] at taken
  refine (closes.goesOn opened).andThen (taken.andThen ?_)
  exact (items text afterComma).bind fun _ _ _ => yields_pure _

/-- The rounds put the items that they read behind those that were gathered before. -/
theorem yields_listRounds (closes : Closes closed close) (items : Realizes cursor item.read)
    (values : List β) :
    Yields text (loop (listRound closed cursor) values) unread
      (furtherItems close item unread >>= fun found => pure (values ++ found.1, found.2)) := by
  fun_induction furtherItems close item unread generalizing values with
  | case1 unread rest found =>
      change Yields _ _ _ (.ok (values ++ [], rest))
      rw [List.append_nil]
      exact yields_loop_leave ((closes.ends found).andThen (yields_pure _))
  | case2 unread opened refusal comma =>
      have missing := yields_comma text unread
      rw [comma] at missing
      exact yields_loop_halt ((closes.goesOn opened).andThen missing.halt)
  | case3 unread opened afterComma comma refusal failed =>
      have round := yields_listRound closes items opened comma text values
      rw [failed] at round
      exact yields_loop_halt round
  | case4 unread opened afterComma comma value rest next refusal recurse ih =>
      have round := yields_listRound closes items opened comma text values
      have others := ih (values ++ [value])
      rw [next] at round
      rw [recurse] at others
      have shorter := (item.shortens next).trans (Scanner.character_shortens comma)
      exact yields_loop_again round shorter others
  | case5 unread opened afterComma comma value rest next more final recurse ih =>
      have round := yields_listRound closes items opened comma text values
      have others := ih (values ++ [value])
      rw [next] at round
      rw [recurse] at others
      change Yields _ _ _ (.ok (values ++ [value] ++ more, final)) at others
      rw [List.append_assoc] at others
      have shorter := (item.shortens next).trans (Scanner.character_shortens comma)
      exact yields_loop_again round shorter others

theorem realizes_listUntil (closes : Closes closed close) (items : Realizes cursor item.read) :
    Realizes (listUntil closed cursor) (itemsUntil close item) := by
  intro text unread
  exact (items text unread).bind fun value rest _ => yields_listRounds closes items [value]

/-- A list whose first item is behind blanks that were passed over. -/
theorem itemsUntil_skipBlanks
    (same : ∀ text, item.read (Text.skipBlanks text) = item.read text) (text : List Char) :
    itemsUntil close item (Text.skipBlanks text) = itemsUntil close item text := by
  rw [itemsUntil, itemsUntil, same]

theorem furtherItems_of_noComma {refusal : Refusal} (opened : close unread = none)
    (refused : Scanner.character ',' unread = .error refusal) :
    furtherItems close item unread = .error refusal := by
  rw [furtherItems, opened]
  simp only
  split
  · next other found =>
      rw [refused] at found
      cases found
      rfl
  · next found =>
      rw [refused] at found
      cases found

end

/-! ## Clauses -/

/-- A keyword and its list in parentheses. -/
def clause (what : String) (labels : List (String × ρ)) (item : Cursor β) :
    Cursor (ρ × List β) := do
  skipBlanks
  match ← firstOf consumeKeyword labels with
  | some (_, label) =>
      expectChar '('
      return (label, ← listUntil closeParen item)
  | none => refuse (.word what)

/-- Lists by their labels, with a clause put at the end of the list of its label. -/
def extend [DecidableEq ρ] (lists : ρ → List β) (found : ρ × List β) (label : ρ) : List β :=
  if found.1 = label then lists label ++ found.2 else lists label

/-- A clause, and a comma unless it is the last. -/
def clauseRound [DecidableEq ρ] (item : Cursor (ρ × List β)) (lists : ρ → List β) :
    Cursor (Round (ρ → List β) (ρ → List β)) := do
  let lists := extend lists (← item)
  if ← closeParen then return .leave lists
  else
    expectChar ','
    return .again lists

/-- One or more clauses, as what they list under each label. -/
def clauses [DecidableEq ρ] (item : Cursor (ρ × List β)) : Cursor (ρ → List β) :=
  loop (clauseRound item) fun _ => []

theorem realizes_clause {what : String} {labels : List (String × ρ)} {cursor : Cursor β}
    {item : Item β} (items : Realizes cursor item.read) :
    Realizes (clause what labels cursor) (labelled what labels item) := by
  intro text unread
  refine yields_skipBlanks.andThen ?_
  unfold labelled
  simp only
  cases chosen : select? labels (Text.skipBlanks unread) with
  | none =>
      refine (looks_consumeKeyword.yields_firstOf_none (alike_refl labels) chosen).andThen ?_
      exact yields_refuse _
  | some found =>
      obtain ⟨label, afterWord⟩ := found
      obtain ⟨_, _, rfl, _, taken⟩ :=
        looks_consumeKeyword.yields_firstOf_some (alike_refl labels) chosen
      refine taken.andThen ?_
      refine (realizes_expectChar '(' text afterWord).bind fun _ afterOpen _ => ?_
      refine (realizes_listUntil closes_closeParen items text afterOpen).bind fun _ _ _ => ?_
      exact yields_pure _

section Clauses

variable [DecidableEq ρ] {cursor : Cursor (ρ × List β)} {item : Item (ρ × List β)}

theorem extend_listedUnder (lists : ρ → List β) (first : ρ × List β)
    (others : List (ρ × List β)) :
    (fun label => extend lists first label ++ listedUnder label others) =
      fun label => lists label ++ listedUnder label (first :: others) := by
  funext label
  unfold extend listedUnder
  rw [List.flatMap_cons]
  by_cases same : first.1 = label
  · simp only [if_pos same, List.append_assoc]
  · simp only [if_neg same, List.nil_append]

/-- The lists of the clauses that are read, behind those that were gathered before. -/
def gather (lists : ρ → List β) (found : List (ρ × List β) × List Char) :
    Except Refusal ((ρ → List β) × List Char) :=
  .ok (fun label => lists label ++ listedUnder label found.1, found.2)

theorem gather_cons (lists : ρ → List β) (first : ρ × List β)
    (others : Except Refusal (List (ρ × List β) × List Char)) :
    (others >>= fun more => pure (first :: more.1, more.2)) >>= gather lists =
      others >>= gather (extend lists first) := by
  cases others with
  | error refusal => rfl
  | ok more =>
      change Except.ok (_, more.2) = Except.ok (_, more.2)
      rw [extend_listedUnder]

theorem yields_clauseRounds (items : Realizes cursor item.read) (lists : ρ → List β) :
    Yields text (loop (clauseRound cursor) lists) unread
      (itemsInParentheses item unread >>= gather lists) := by
  -- a round reads an item and then a comma, so the items are not taken apart one by one as
  -- their own recursion does, and the induction is on what is left behind the comma
  induction h : unread.length using Nat.strong_induction_on generalizing unread lists with
  | _ length ih =>
  subst h
  unfold itemsInParentheses itemsUntil
  have first := items text unread
  cases read : item.read unread with
  | error refusal =>
      rw [read] at first
      exact yields_loop_halt first.halt
  | ok found =>
      obtain ⟨clause, rest⟩ := found
      rw [read] at first
      change Yields _ _ _
        ((furtherItems Scanner.closing? item rest >>= fun more => pure (clause :: more.1, more.2))
          >>= gather lists)
      cases closed : Scanner.closing? rest with
      | some final =>
          have last := extend_listedUnder lists clause []
          rw [furtherItems_of_close closed]
          change Yields _ _ _ (.ok (fun label => lists label ++ listedUnder label [clause], final))
          rw [← last]
          refine yields_loop_leave (first.andThen ((closes_closeParen.ends closed).andThen ?_))
          simp only [listedUnder, List.flatMap_nil, List.append_nil]
          exact yields_pure _
      | none =>
          have taken := yields_comma text rest
          have opened : Yields text closeParen rest (.ok (false, Text.skipBlanks rest)) :=
            closes_closeParen.goesOn closed
          cases comma : Scanner.character ',' rest with
          | error refusal =>
              rw [comma] at taken
              rw [furtherItems_of_noComma closed comma]
              exact yields_loop_halt (first.andThen (opened.andThen taken.halt))
          | ok afterComma =>
              obtain ⟨_, afterComma⟩ := afterComma
              rw [comma] at taken
              rw [furtherItems_of_comma isEnd_closing (Scanner.character_eq_ok_iff.mp comma),
                gather_cons]
              have shorter := (Scanner.character_shortens comma).trans (item.shortens read)
              have others := ih afterComma.length shorter (extend lists clause) rfl
              exact yields_loop_again (first.andThen (opened.andThen (taken.andThen
                (yields_pure _)))) shorter others

/-- What is made of the lists by their labels. -/
theorem realizes_clauses (items : Realizes cursor item.read) (make : (ρ → List β) → γ) :
    Realizes (do return make (← clauses cursor)) fun unread =>
      itemsInParentheses item unread >>= fun found =>
        pure (make fun label => listedUnder label found.1, found.2) := by
  intro text unread
  have made : Yields text (do return make (← clauses cursor)) unread
      ((itemsInParentheses item unread >>= gather fun _ => []) >>= fun found =>
        pure (make found.1, found.2)) :=
    (yields_clauseRounds items _).bind fun _ _ _ => yields_pure _
  change Yields _ _ _ (itemsInParentheses item unread >>= _)
  cases listed : itemsInParentheses item unread with
  | error refusal =>
      rw [listed] at made
      exact made
  | ok found =>
      rw [listed] at made
      exact made

end Clauses

end Cursor

end DailySignals
