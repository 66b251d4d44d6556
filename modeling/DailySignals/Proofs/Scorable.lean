import DailySignals.Proofs.Validation

/-!
# Strategies that can be scored

The only thing that can stop a score is a rule whose parameters cannot be read.
Validation reads the parameters of every rule of a strategy, so a valid strategy
has both its scores on every snapshot, whatever the registry knows.
-/

set_option autoImplicit false

namespace DailySignals

variable {α : Type} [Arithmetic α]

/-- A rule whose parameters can be read. -/
def ScoringRule.Readable (rule : ScoringRule α) : Prop :=
  ∃ params, rule.readParams = .ok params

theorem ScoringRule.readable_of_isSome {rule : ScoringRule α}
    (found : (RuleParams.parse? (α := α) rule.params).isSome = true) : rule.Readable := by
  obtain ⟨params, read⟩ := Option.isSome_iff_exists.mp found
  exact ⟨params, by rw [ScoringRule.readParams, read]⟩

namespace Strategy

/-- A strategy of which every rule can be scored. -/
def Scorable (strategy : Strategy α) : Prop :=
  match strategy.signals with
  | .conditions _ _ => True
  | .scoring rules => ∀ rule ∈ rules.entryRules ++ rules.exitRules, rule.Readable

theorem readable_of_validateRule {rule : ScoringRule α} (valid : validateRule rule = .ok ()) :
    rule.Readable := by
  unfold validateRule at valid
  obtain ⟨_, valid⟩ := guard_eq_ok.mp valid
  obtain ⟨_, valid⟩ := guard_eq_ok.mp valid
  cases read : rule.readParams with
  | ok params => exact ⟨params, read⟩
  | error fault => simp [read] at valid

theorem scorable_of_validate {strategy : Strategy α} (valid : strategy.validate = .ok ()) :
    strategy.Scorable := by
  obtain ⟨_, _, signalsValid, _⟩ := validate_eq_ok.mp valid
  unfold Scorable
  cases kind : strategy.signals with
  | conditions buy sell => trivial
  | scoring rules =>
      rw [kind] at signalsValid
      obtain ⟨_, _, rulesValid⟩ := validateSignals_scoring_eq_ok.mp signalsValid
      intro rule member
      exact readable_of_validateRule (rulesValid rule member)

end Strategy

/-! ## Scores -/

theorem contributions_complete (registry : Registry α) (snapshot : Snapshot α)
    (rules : List (ScoringRule α)) (readable : ∀ rule ∈ rules, rule.Readable) :
    ∃ weighted, ScoreBreakdown.contributions registry snapshot rules = .ok weighted := by
  induction rules with
  | nil => exact ⟨[], rfl⟩
  | cons rule rest ih =>
      obtain ⟨others, scored⟩ := ih fun other member =>
        readable other (List.mem_cons_of_mem _ member)
      obtain ⟨params, read⟩ := readable rule (by simp)
      unfold ScoreBreakdown.contributions
      cases registry.find? rule.kind with
      | none => exact ⟨others, scored⟩
      | some evaluator =>
          simp only [read, scored, bind, Except.bind, pure, Except.pure]
          split
          · exact ⟨others, rfl⟩
          · exact ⟨_, rfl⟩

/-- Rules that can be read have a breakdown, and its total is their score. -/
theorem score_complete (registry : Registry α) (snapshot : Snapshot α)
    (rules : List (ScoringRule α)) (readable : ∀ rule ∈ rules, rule.Readable) :
    ∃ breakdown, ScoreBreakdown.compute registry rules snapshot = .ok breakdown ∧
      registry.score rules snapshot = .ok breakdown.total := by
  obtain ⟨weighted, scored⟩ := contributions_complete registry snapshot rules readable
  have computed : ScoreBreakdown.compute registry rules snapshot =
      .ok (ScoreBreakdown.ofContributions weighted) := by
    rw [ScoreBreakdown.compute, scored]
    rfl
  refine ⟨_, computed, ?_⟩
  rw [Registry.score, computed]
  rfl

namespace Strategy.Scorable

variable {strategy : Strategy α} {rules : ScoringSignals α}

theorem entryScore (scorable : strategy.Scorable) (kind : strategy.signals = .scoring rules)
    (registry : Registry α) (snapshot : Snapshot α) :
    ∃ breakdown, ScoreBreakdown.compute registry rules.entryRules snapshot = .ok breakdown ∧
      registry.score rules.entryRules snapshot = .ok breakdown.total := by
  unfold Scorable at scorable
  rw [kind] at scorable
  exact score_complete registry snapshot rules.entryRules
    fun rule member => scorable rule (List.mem_append_left _ member)

theorem exitScore (scorable : strategy.Scorable) (kind : strategy.signals = .scoring rules)
    (registry : Registry α) (snapshot : Snapshot α) :
    ∃ score, registry.score rules.exitRules snapshot = .ok score := by
  unfold Scorable at scorable
  rw [kind] at scorable
  obtain ⟨_, _, scored⟩ := score_complete registry snapshot rules.exitRules
    fun rule member => scorable rule (List.mem_append_right _ member)
  exact ⟨_, scored⟩

end Strategy.Scorable

theorem Strategy.entrySignal_complete {strategy : Strategy α} (scorable : strategy.Scorable)
    (registry : Registry α) (snapshot : Snapshot α) :
    ∃ signal, strategy.entrySignal registry snapshot = .ok signal := by
  unfold entrySignal
  cases kind : strategy.signals with
  | conditions buy sell => exact ⟨_, rfl⟩
  | scoring rules =>
      obtain ⟨_, _, scored⟩ := scorable.entryScore kind registry snapshot
      simp only [Registry.triggersEntry, scored]
      exact ⟨_, rfl⟩

end DailySignals
