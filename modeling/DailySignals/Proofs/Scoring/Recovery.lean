import DailySignals.Proofs.Condition.Recovery
import DailySignals.Proofs.Scoring.RuleList

/-!
# Faults point in front of the first mistake

A rule is read as a chain of tokens, like a condition, but for the object of its
parameters, of which only the braces are looked at.  So lists of rules stop as sets
of conditions do: what is in front of a reported place can be completed.
-/

set_option autoImplicit false

namespace DailySignals

open Text Scanner Grammar

namespace Scanner

theorem stopsAtOnce_object : StopsAtOnce object := by
  intro text refusal failed
  unfold object at failed
  split at failed
  · next inside starts =>
      split at failed
      · cases failed
      · cases failed
        exact starts.symm
  · cases failed
    rfl

theorem isBraced_empty : IsBraced ['\x7b', '\x7d'] := by
  have noSpaces : Json.IsSpaces [] := nofun
  exact isBraced_of_derives (.emptyObject noSpaces)

theorem follows_object :
    Follows object (Alone fun params token => IsBraced token ∧ String.ofList token = params) := by
  refine .of_stopsAtOnce stopsAtOnce_object ⟨_, _, .intro ⟨isBraced_empty, rfl⟩⟩ ?_
  intro text rest params success
  obtain ⟨token, braced, spelled, parts⟩ := object_eq_ok_iff.mp success
  exact ⟨[token], rest, .intro ⟨braced, spelled⟩, begins_singleton parts, rfl⟩

end Scanner

namespace ScoringRule

theorem follows_readParamsText : Follows readParamsText ParamsReadFrom := by
  let params : Step String := fun text =>
    character ',' text >>= fun comma => object comma.2 >>= fun found =>
      character ')' found.2 >>= fun closed => pure (found.1, closed.2)
  have behind_comma : Follows params ParamsReadFrom := by
    refine Follows.mono ((follows_character ',').bind fun _ =>
      follows_object.bind fun params => by
        dsimp only
        exact (follows_character ')').bind fun _ => .done params) ?_
    rintro _ _ ⟨⟨rfl⟩, ⟨⟨braced, rfl⟩, ⟨⟨rfl⟩, rfl, rfl⟩⟩⟩
    exact .object braced
  refine (behind_comma.closing_or "" ?_ ?_).mono ?_
  · intro text rest closed
    simp only [readParamsText, closed]
  · intro text opened
    simp only [readParamsText, opened]
    rfl
  · rintro _ _ (⟨rfl, rfl⟩ | written)
    · exact .absent
    · exact written

variable {α : Type} [Arithmetic α] {side : RuleSide}

theorem follows_rule : Follows (item (α := α) side).read (ReadFrom side) := by
  change Follows (read side) _
  unfold read
  refine Follows.mono ((follows_identifier "condition type").bind fun kind =>
    (follows_character '(').bind fun _ =>
    follows_number.bind fun weight =>
    follows_readParamsText.bind fun params =>
    .done (ScoringRule.mk kind params (Arithmetic.ofDecimal weight) side)) ?_
  rintro _ _ ⟨⟨isName, rfl⟩, ⟨⟨rfl⟩, ⟨⟨number⟩, ⟨written, rfl, rfl⟩⟩⟩⟩
  rw [List.append_nil]
  exact .intro isName number written

theorem reads_rule : Reads (item (α := α) side).read (ReadFrom side) where
  sound := follows_rule.sound
  complete := accepts_readFrom

theorem readWhole_stops {text : List Char} {refusal : Refusal}
    (failed : readWhole (α := α) side text = .error refusal) :
    StopsIn (fun tokens => ∃ rules : List (ScoringRule α), Separated (ReadFrom side) rules tokens)
      text refusal.unread := by
  unfold readWhole at failed
  split at failed
  · cases failed
  · rcases bind_eq_error.mp failed with failed | ⟨_, _, failed⟩
    · have listed : Follows (itemsUntil finished? (item (α := α) side))
          (Listed (ReadFrom side) []) :=
        follows_itemsUntil isEnd_finished closesWith_finished reads_rule follows_rule
      refine (listed.stops failed).mono ?_
      rintro _ ⟨rules, tokens, separated, rfl⟩
      rw [List.append_nil]
      exact ⟨rules, separated⟩
    · cases failed

theorem readWhole_of_spells {rules : List (ScoringRule α)} {tokens : List Token}
    (separated : Separated (ReadFrom side) rules tokens) {text : List Char}
    (spelled : Spells tokens text) : readWhole side text = .ok rules := by
  have nonempty : tokens ≠ [] := by
    cases separated with
    | one item =>
        cases item
        nofun
    | more => simp
  obtain ⟨after, begins, ended⟩ := (spells_iff (separated.solid ReadFrom.solid)).mp spelled
  have more := finished_eq_none (separated.solid ReadFrom.solid) nonempty begins
  have read := itemsUntil_of_separated isEnd_finished accepts_readFrom separated begins
    (finished_eq_some_iff.mpr ⟨ended, rfl⟩)
  unfold readWhole
  simp only [more]
  exact (bind_of_ok read).trans (pure_eq_ok.mpr rfl)

theorem parseList_recoverable {text : String} {fault : SyntaxFault}
    (failed : parseList (α := α) side text = .error fault) :
    Recoverable (fun text => ∃ rules : List (ScoringRule α), parseList side text = .ok rules) text
      fault.position := by
  obtain ⟨refusal, refused, rfl⟩ := mapError_eq_error.mp failed
  refine recoverable_of_stops ?_ (readWhole_stops refused)
  rintro tokens text ⟨rules, separated⟩ spelled
  refine ⟨rules, ?_⟩
  rw [parseList, mapError_eq_ok, String.toList_ofList]
  exact readWhole_of_spells separated spelled

end ScoringRule

/-- Where a text of conditions or of rules cannot be read, the reported place is a
boundary of characters up to which the text can be completed to one that is read. -/
theorem syntaxFaults_recoverable {α : Type} [Arithmetic α] :
    (∀ (text : String) (fault : SyntaxFault), ConditionSet.parse (α := α) text = .error fault →
      Recoverable (fun other => ∃ set : ConditionSet α, ConditionSet.parse other = .ok set)
        text fault.position) ∧
      ∀ (side : RuleSide) (text : String) (fault : SyntaxFault),
        ScoringRule.parseList (α := α) side text = .error fault →
          Recoverable
            (fun other => ∃ rules : List (ScoringRule α),
              ScoringRule.parseList side other = .ok rules)
            text fault.position :=
  ⟨fun _ _ => ConditionSet.parse_recoverable, fun _ _ _ => ScoringRule.parseList_recoverable⟩

/-- A missing value behind a letter of two bytes, and a rule that goes on behind an
object that is no JSON. -/
theorem syntaxFaults_recoverable_multibyte :
    let conditions := "ANY(MARKET(\u00e9, ))"
    let rules := "BASE_SCORE(5, \x7b\u00e9\x7d 3)"
    (∃ fault, ConditionSet.parse (α := Float) conditions = .error fault ∧ fault.position = 15 ∧
      Recoverable
        (fun other => ∃ set : ConditionSet Float, ConditionSet.parse other = .ok set)
        conditions fault.position) ∧
      ∃ fault, ScoringRule.parseList (α := Float) .entry rules = .error fault ∧
        fault.position = 19 ∧
        Recoverable
          (fun other => ∃ found : List (ScoringRule Float),
            ScoringRule.parseList .entry other = .ok found)
          rules fault.position := by
  intro conditions rules
  have conditionsFail : ConditionSet.parse (α := Float) conditions =
      .error ⟨"expected value, found ')'", 15⟩ := by decide +kernel
  have rulesFail : ScoringRule.parseList (α := Float) .entry rules =
      .error ⟨"expected ')', found '3'", 19⟩ := by decide +kernel
  exact ⟨⟨_, conditionsFail, rfl, syntaxFaults_recoverable.1 _ _ conditionsFail⟩,
    ⟨_, rulesFail, rfl, syntaxFaults_recoverable.2 _ _ _ rulesFail⟩⟩

end DailySignals
