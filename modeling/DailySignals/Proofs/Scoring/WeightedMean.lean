import Mathlib.Algebra.BigOperators.Ring.List
import Mathlib.Algebra.Order.BigOperators.Group.List
import Mathlib.Algebra.Order.Field.Rat
import Mathlib.Tactic.FieldSimp
import Mathlib.Tactic.Linarith
import DailySignals.Proofs.Exact
import DailySignals.Proofs.Scorable
import DailySignals.Proofs.Backtest.Completion

/-!
# A score is a weighted mean

A rule counts if its kind is known and its weight is positive.  In exact arithmetic
the total of a breakdown is a hundred times the mean of what these rules contribute,
each with its weight, and nothing else goes into it: where all parameters can be
read, the contributions are found rule by rule (`weighted?`), so neither the order
of the rules nor the scale of the weights makes a difference.  Of rules whose
parameters cannot be read the first one of a known kind is the fault of the list.
-/

set_option autoImplicit false

namespace DailySignals

theorem Registry.contains_of_find? {α : Type} {registry : Registry α} {kind : String}
    {evaluator : Evaluator α} (known : registry.find? kind = some evaluator) :
    registry.contains kind = true := by
  rw [contains, known]
  rfl

namespace ScoringRule

section Contributions

variable {α : Type} [Arithmetic α]

/-- What a rule says of a snapshot. -/
def contribution? (registry : Registry α) (snapshot : Snapshot α) (rule : ScoringRule α) :
    Option α := do
  let evaluator ← registry.find? rule.kind
  let params ← rule.readParams.toOption
  return evaluator params snapshot

theorem contribution?_of_readable {registry : Registry α} {snapshot : Snapshot α}
    {rule : ScoringRule α} {evaluator : Evaluator α} {params : RuleParams α}
    (known : registry.find? rule.kind = some evaluator) (read : rule.readParams = .ok params) :
    rule.contribution? registry snapshot = some (evaluator params snapshot) := by
  rw [contribution?, known, read]
  rfl

theorem contribution?_of_unknown {registry : Registry α} {snapshot : Snapshot α}
    {rule : ScoringRule α} (unknown : registry.find? rule.kind = none) :
    rule.contribution? registry snapshot = none := by
  rw [contribution?, unknown]
  rfl

theorem readParams_of_not_readable {rule : ScoringRule α} (unreadable : ¬ rule.Readable) :
    rule.readParams = .error ⟨rule.kind⟩ := by
  cases read : rule.readParams with
  | ok params => exact absurd ⟨params, read⟩ unreadable
  | error fault =>
      unfold readParams at read
      split at read
      · cases read
      · rw [← read]

end Contributions

/-- Whether a rule is of a known kind and has a positive weight. -/
def counts (registry : Registry Rat) (rule : ScoringRule Rat) : Bool :=
  registry.contains rule.kind && decide (0 < rule.weight)

/-- A rule that counts, with what it contributes. -/
def weighted? (registry : Registry Rat) (snapshot : Snapshot Rat) (rule : ScoringRule Rat) :
    Option (ScoringRule Rat × Rat) :=
  if 0 < rule.weight then (rule.contribution? registry snapshot).map fun value => (rule, value)
  else none

theorem weighted?_of_unknown {registry : Registry Rat} {snapshot : Snapshot Rat}
    {rule : ScoringRule Rat} (unknown : registry.find? rule.kind = none) :
    rule.weighted? registry snapshot = none := by
  rw [weighted?, contribution?_of_unknown unknown]
  simp

theorem weighted?_of_readable {registry : Registry Rat} {snapshot : Snapshot Rat}
    {rule : ScoringRule Rat} {evaluator : Evaluator Rat} {params : RuleParams Rat}
    (known : registry.find? rule.kind = some evaluator) (read : rule.readParams = .ok params) :
    rule.weighted? registry snapshot =
      if 0 < rule.weight then some (rule, evaluator params snapshot) else none := by
  rw [weighted?, contribution?_of_readable known read]
  rfl

/-- A rule with its weight on another scale. -/
def scaled (factor : Rat) (rule : ScoringRule Rat) : ScoringRule Rat :=
  { rule with weight := factor * rule.weight }

end ScoringRule

namespace ScoreBreakdown

open ScoringRule

variable {registry : Registry Rat} {snapshot : Snapshot Rat} {rules : List (ScoringRule Rat)}

/-- Where the parameters of all rules of known kinds can be read, every rule is
looked at by itself. -/
theorem contributions_eq_filterMap
    (readable : ∀ rule ∈ rules, registry.contains rule.kind = true → rule.Readable) :
    contributions registry snapshot rules =
      .ok (rules.filterMap (weighted? registry snapshot)) := by
  induction rules with
  | nil => rfl
  | cons rule rest ih =>
      have others := ih fun other member => readable other (List.mem_cons_of_mem _ member)
      rw [contributions, List.filterMap_cons]
      cases known : registry.find? rule.kind with
      | none =>
          rw [weighted?_of_unknown known]
          exact others
      | some evaluator =>
          obtain ⟨params, read⟩ := readable rule (by simp) (Registry.contains_of_find? known)
          simp only [weighted?_of_readable known read, read, others, Arithmetic.numeral_rat,
            Nat.cast_zero]
          by_cases positive : 0 < rule.weight
          · rw [if_pos positive]
            simp [bind, Except.bind, positive, pure, Except.pure]
          · rw [if_neg positive]
            simp [bind, Except.bind, not_lt.mp positive, pure, Except.pure]

theorem contributions_of_unreadable {before after : List (ScoringRule Rat)}
    {rule : ScoringRule Rat}
    (readable : ∀ other ∈ before, registry.contains other.kind = true → other.Readable)
    (known : registry.contains rule.kind = true) (unreadable : ¬ rule.Readable) :
    contributions registry snapshot (before ++ rule :: after) = .error ⟨rule.kind⟩ := by
  induction before with
  | nil =>
      obtain ⟨evaluator, found⟩ := Option.isSome_iff_exists.mp known
      rw [List.nil_append, contributions, found]
      exact bind_of_error (readParams_of_not_readable unreadable)
  | cons first rest ih =>
      have others := ih fun other member => readable other (List.mem_cons_of_mem _ member)
      rw [List.cons_append, contributions, others]
      cases found : registry.find? first.kind with
      | none => rfl
      | some evaluator =>
          obtain ⟨params, read⟩ := readable first (by simp) (Registry.contains_of_find? found)
          rw [read]
          rfl

/-! ## Sums -/

def totalWeight (weighted : List (ScoringRule Rat × Rat)) : Rat :=
  (weighted.map fun pair => pair.1.weight).sum

def weightedSum (weighted : List (ScoringRule Rat × Rat)) : Rat :=
  (weighted.map fun pair => pair.2 * pair.1.weight).sum

variable {weighted : List (ScoringRule Rat × Rat)}

theorem weight_pos_of_mem {pair : ScoringRule Rat × Rat}
    (member : pair ∈ rules.filterMap (weighted? registry snapshot)) : 0 < pair.1.weight := by
  obtain ⟨rule, _, counted⟩ := List.mem_filterMap.mp member
  unfold weighted? at counted
  split at counted
  · rename_i positive
    obtain ⟨_, _, rfl⟩ := Option.map_eq_some_iff.mp counted
    exact positive
  · cases counted

theorem totalWeight_pos (positive : ∀ pair ∈ weighted, 0 < pair.1.weight)
    (some_rules : weighted ≠ []) : 0 < totalWeight weighted := by
  apply List.sum_pos
  · rw [List.forall_mem_map]
    exact positive
  · simpa using some_rules

/-- Over positive weights the breakdown needs no case of its own for an empty list:
there the total is a quotient of zeros, which is zero. -/
theorem ofContributions_rat (positive : ∀ pair ∈ weighted, 0 < pair.1.weight) :
    ofContributions weighted =
      ⟨weightedSum weighted / totalWeight weighted * 100,
        weighted.map fun pair => component (totalWeight weighted) pair.1 pair.2⟩ := by
  simp only [ofContributions, Arithmetic.total_rat, Arithmetic.sum_rat, Arithmetic.numeral_rat,
    Nat.cast_zero, List.map_map]
  change (if totalWeight weighted ≤ 0 then _ else _) = _
  cases weighted with
  | nil => simp [totalWeight, weightedSum]
  | cons pair rest =>
      rw [if_neg (totalWeight_pos positive (List.cons_ne_nil _ _)).not_ge]
      rfl

theorem totalWeight_scaled (factor : Rat) (weighted : List (ScoringRule Rat × Rat)) :
    totalWeight (weighted.map fun pair => (pair.1.scaled factor, pair.2)) =
      factor * totalWeight weighted := by
  rw [totalWeight, totalWeight, ← List.sum_map_mul_left, List.map_map]
  rfl

theorem weightedSum_scaled (factor : Rat) (weighted : List (ScoringRule Rat × Rat)) :
    weightedSum (weighted.map fun pair => (pair.1.scaled factor, pair.2)) =
      factor * weightedSum weighted := by
  rw [weightedSum, weightedSum, ← List.sum_map_mul_left, List.map_map]
  congr 2
  funext pair
  exact mul_left_comm _ _ _

theorem weightedSum_within {low high : Rat} (positive : ∀ pair ∈ weighted, 0 < pair.1.weight)
    (within : ∀ pair ∈ weighted, low ≤ pair.2 ∧ pair.2 ≤ high) :
    low * totalWeight weighted ≤ weightedSum weighted ∧
      weightedSum weighted ≤ high * totalWeight weighted := by
  rw [totalWeight, ← List.sum_map_mul_left, ← List.sum_map_mul_left]
  constructor
  · apply List.sum_le_sum
    intro pair member
    exact mul_le_mul_of_nonneg_right (within pair member).1 (positive pair member).le
  · apply List.sum_le_sum
    intro pair member
    exact mul_le_mul_of_nonneg_right (within pair member).2 (positive pair member).le

/-! ## The mean -/

/-- A breakdown whose total is the weighted mean of its contributions, on a scale of
a hundred. -/
structure IsMean (breakdown : ScoreBreakdown Rat) : Prop where
  total_mul : breakdown.total * (breakdown.components.map (·.weight)).sum =
    100 * (breakdown.components.map fun component => component.contribution * component.weight).sum
  points : breakdown.total = (breakdown.components.map (·.points)).sum
  within : breakdown.components ≠ [] → ∀ low high,
    (∀ component ∈ breakdown.components,
      low ≤ component.contribution ∧ component.contribution ≤ high) →
    100 * low ≤ breakdown.total ∧ breakdown.total ≤ 100 * high
  empty : breakdown.components = [] → breakdown.total = 0

theorem sum_points : ((weighted.map fun pair =>
      component (totalWeight weighted) pair.1 pair.2).map (·.points)).sum =
    weightedSum weighted / totalWeight weighted * 100 := by
  have shares : ∀ pair : ScoringRule Rat × Rat,
      (component (totalWeight weighted) pair.1 pair.2).points =
        pair.2 * pair.1.weight * ((totalWeight weighted)⁻¹ * 100) := by
    intro pair
    change pair.2 * pair.1.weight / totalWeight weighted * Arithmetic.ofNat 100 = _
    rw [Arithmetic.ofNat_rat, div_eq_mul_inv, mul_assoc]
    norm_num
  simp only [List.map_map, Function.comp_def, shares]
  rw [List.sum_map_mul_right, ← mul_assoc, ← div_eq_mul_inv]
  rfl

theorem ofContributions_isMean (positive : ∀ pair ∈ weighted, 0 < pair.1.weight) :
    (ofContributions weighted).IsMean := by
  rw [ofContributions_rat positive]
  have total_pos : weighted ≠ [] → 0 < totalWeight weighted := totalWeight_pos positive
  constructor
  · rw [List.map_map, List.map_map]
    change weightedSum weighted / totalWeight weighted * 100 * totalWeight weighted =
      100 * weightedSum weighted
    by_cases none_count : weighted = []
    · simp [none_count, weightedSum]
    · have nonzero := (total_pos none_count).ne'
      field_simp
  · exact sum_points.symm
  · intro some_count low high bounded
    rw [ne_eq, List.map_eq_nil_iff] at some_count
    rw [List.forall_mem_map] at bounded
    obtain ⟨above, below⟩ := weightedSum_within positive bounded
    rw [← le_div_iff₀ (total_pos some_count)] at above
    rw [← div_le_iff₀ (total_pos some_count)] at below
    constructor <;> linarith
  · intro none_count
    rw [List.map_eq_nil_iff] at none_count
    simp [none_count, weightedSum]

/-! ## Scores of rules -/

theorem score_rat
    (readable : ∀ rule ∈ rules, registry.contains rule.kind = true → rule.Readable) :
    registry.score rules snapshot =
      .ok (weightedSum (rules.filterMap (weighted? registry snapshot)) /
        totalWeight (rules.filterMap (weighted? registry snapshot)) * 100) := by
  rw [Registry.score, compute, contributions_eq_filterMap readable]
  change Except.ok (ofContributions _).total = _
  rw [ofContributions_rat fun _ => weight_pos_of_mem]

theorem score_congr_of_perm {rules' : List (ScoringRule Rat)} (same : rules'.Perm rules)
    (readable : ∀ rule ∈ rules, registry.contains rule.kind = true → rule.Readable) :
    registry.score rules' snapshot = registry.score rules snapshot := by
  have weighted := same.filterMap (weighted? registry snapshot)
  rw [score_rat readable, score_rat fun rule member => readable rule (same.mem_iff.mp member)]
  simp only [weightedSum, totalWeight, (weighted.map _).sum_eq]

theorem weighted?_scaled {factor : Rat} (positive : 0 < factor) (rule : ScoringRule Rat) :
    (rule.scaled factor).weighted? registry snapshot =
      (rule.weighted? registry snapshot).map fun pair => (pair.1.scaled factor, pair.2) := by
  have same : (rule.scaled factor).contribution? registry snapshot =
      rule.contribution? registry snapshot := rfl
  have weight : (rule.scaled factor).weight = factor * rule.weight := rfl
  simp only [weighted?, same, weight, mul_pos_iff_of_pos_left positive]
  split
  · rw [Option.map_map]
    rfl
  · rfl

theorem score_scaled {factor : Rat} (positive : 0 < factor)
    (readable : ∀ rule ∈ rules, registry.contains rule.kind = true → rule.Readable) :
    registry.score (rules.map (·.scaled factor)) snapshot = registry.score rules snapshot := by
  have readableScaled : ∀ rule ∈ rules.map (·.scaled factor),
      registry.contains rule.kind = true → rule.Readable := by
    rw [List.forall_mem_map]
    exact readable
  have counted : (rules.map (·.scaled factor)).filterMap (weighted? registry snapshot) =
      (rules.filterMap (weighted? registry snapshot)).map
        fun pair => (pair.1.scaled factor, pair.2) := by
    rw [List.filterMap_map, List.map_filterMap]
    exact congrArg (rules.filterMap ·) (funext (weighted?_scaled positive))
  rw [score_rat readable, score_rat readableScaled, counted, totalWeight_scaled,
    weightedSum_scaled, mul_div_mul_left _ _ positive.ne']

/-! ## Components -/

/-- A component that stands for a rule: it has the rule's kind and weight, and the
contribution is what the evaluator of that kind makes of the rule's parameters. -/
structure StandsFor (registry : Registry Rat) (snapshot : Snapshot Rat)
    (rule : ScoringRule Rat) (component : ScoreComponent Rat) : Prop where
  kind_eq : component.kind = rule.kind
  weight_eq : component.weight = rule.weight
  evaluated : ∃ evaluator params, registry.find? rule.kind = some evaluator ∧
    rule.readParams = .ok params ∧ component.contribution = evaluator params snapshot

theorem standsFor_component (total : Rat)
    (readable : ∀ rule ∈ rules, registry.contains rule.kind = true → rule.Readable) :
    List.Forall₂ (StandsFor registry snapshot) (rules.filter (·.counts registry))
      ((rules.filterMap (weighted? registry snapshot)).map
        fun pair => component total pair.1 pair.2) := by
  induction rules with
  | nil => exact .nil
  | cons rule rest ih =>
      have others := ih fun other member => readable other (List.mem_cons_of_mem _ member)
      rw [List.filter_cons, List.filterMap_cons]
      cases known : registry.find? rule.kind with
      | none =>
          have skipped : rule.counts registry = false := by
            simp [counts, Registry.contains, known]
          rw [skipped, weighted?_of_unknown known]
          exact others
      | some evaluator =>
          have contained := Registry.contains_of_find? known
          obtain ⟨params, read⟩ := readable rule (by simp) contained
          rw [counts, contained, weighted?_of_readable known read]
          by_cases positive : 0 < rule.weight
          · rw [decide_eq_true positive, if_pos positive]
            exact .cons ⟨rfl, rfl, evaluator, params, known, read, rfl⟩ others
          · rw [decide_eq_false positive, if_neg positive]
            exact others

/-- Rules whose parameters can be read, where their kinds are known, have a score.
Its components are the rules that count, in their order, and its total is the
weighted mean of what these contribute, whatever the order of the rules and the
scale of their weights.  Otherwise the score fails on the first rule of a known kind
that cannot be read. -/
theorem score_is_weighted_mean (registry : Registry Rat) (snapshot : Snapshot Rat)
    (rules : List (ScoringRule Rat)) :
    ((∀ rule ∈ rules, registry.contains rule.kind = true → rule.Readable) →
      ∃ breakdown, compute registry rules snapshot = .ok breakdown ∧
        List.Forall₂ (StandsFor registry snapshot) (rules.filter (·.counts registry))
          breakdown.components ∧
        breakdown.IsMean ∧
        (∀ rules', rules'.Perm rules →
          registry.score rules' snapshot = .ok breakdown.total) ∧
        ∀ factor, 0 < factor →
          registry.score (rules.map (·.scaled factor)) snapshot = .ok breakdown.total) ∧
      ∀ before rule after, rules = before ++ rule :: after →
        (∀ other ∈ before, registry.contains other.kind = true → other.Readable) →
        registry.contains rule.kind = true → ¬ rule.Readable →
        compute registry rules snapshot = .error ⟨rule.kind⟩ := by
  constructor
  · intro readable
    have positive : ∀ pair ∈ rules.filterMap (weighted? registry snapshot),
        0 < pair.1.weight := fun _ => weight_pos_of_mem
    have computed : compute registry rules snapshot =
        .ok (ofContributions (rules.filterMap (weighted? registry snapshot))) := by
      rw [compute, contributions_eq_filterMap readable]
      rfl
    have scored : registry.score rules snapshot =
        .ok (ofContributions (rules.filterMap (weighted? registry snapshot))).total := by
      rw [Registry.score, computed]
      rfl
    refine ⟨_, computed, ?_, ofContributions_isMean positive, ?_, ?_⟩
    · rw [ofContributions_rat positive]
      exact standsFor_component _ readable
    · intro rules' same
      rw [score_congr_of_perm same readable, scored]
    · intro factor scale
      rw [score_scaled scale readable, scored]
  · rintro before rule after rfl readable known unreadable
    rw [compute, contributions_of_unreadable readable known unreadable]
    rfl

end ScoreBreakdown

namespace Sample

def surgeRule : ScoringRule Rat :=
  ⟨"VOLUME_SURGE", "\x7b\"min\": 1.5\x7d", 20, .entry⟩

def dayRule (weight : Rat) : ScoringRule Rat :=
  ⟨"BASE_SCORE", "", weight, .entry⟩

def rumourRule : ScoringRule Rat :=
  ⟨"SENTIMENT", "not read", 99, .entry⟩

def garbledRule : ScoringRule Rat :=
  ⟨"RANGE_POS", "not read", 0, .entry⟩

/-- Two rules that count, of which one has no volume to speak of, between others. -/
def mixedRules : List (ScoringRule Rat) :=
  [rumourRule, surgeRule, dayRule (-5), dayRule 60]

theorem mixedRules_readable : ∀ rule ∈ mixedRules,
    (Registry.builtin : Registry Rat).contains rule.kind = true → rule.Readable := by
  have surge : surgeRule.Readable := ScoringRule.readable_of_isSome (by decide +kernel)
  have day (weight : Rat) : (dayRule weight).Readable := ⟨.absent, rfl⟩
  simp only [mixedRules, List.forall_mem_cons]
  refine ⟨?_, fun _ => surge, fun _ => day _, fun _ => day _, by simp⟩
  intro known
  exact absurd known (by decide)

theorem garbledRule_unreadable : ¬ garbledRule.Readable := by
  rintro ⟨params, read⟩
  have fails : garbledRule.readParams.toOption.isSome = false := by decide +kernel
  rw [read] at fails
  cases fails

end Sample

namespace ScoreBreakdown

/-- A score of 80 with weight 60 and nothing with weight 20 make 60, in any order and
with half the weights; a rule that cannot be read spoils them without any weight. -/
theorem score_is_weighted_mean_mixed :
    (∀ rule ∈ Sample.mixedRules,
        (Registry.builtin : Registry Rat).contains rule.kind = true → rule.Readable) ∧
      ¬ Sample.garbledRule.Readable ∧
      Registry.builtin.score Sample.mixedRules (Sample.snapshot Sample.firstDay 80) =
        .ok 60 ∧
      Registry.builtin.score Sample.mixedRules.reverse
        (Sample.snapshot Sample.firstDay 80) = .ok 60 ∧
      Registry.builtin.score (Sample.mixedRules.map (·.scaled (1 / 2)))
        (Sample.snapshot Sample.firstDay 80) = .ok 60 ∧
      compute Registry.builtin (Sample.mixedRules ++ Sample.garbledRule :: [])
        (Sample.snapshot Sample.firstDay 80) = .error ⟨"RANGE_POS"⟩ := by
  have readable := Sample.mixedRules_readable
  have unreadable := Sample.garbledRule_unreadable
  have sixty : Registry.builtin.score Sample.mixedRules
      (Sample.snapshot Sample.firstDay 80) = .ok 60 := eq_ok_of_toOption (by decide +kernel)
  obtain ⟨means, _⟩ := score_is_weighted_mean Registry.builtin
    (Sample.snapshot Sample.firstDay 80) Sample.mixedRules
  obtain ⟨_, fails⟩ := score_is_weighted_mean Registry.builtin
    (Sample.snapshot Sample.firstDay 80) (Sample.mixedRules ++ Sample.garbledRule :: [])
  obtain ⟨breakdown, _, _, _, permuted, scaled⟩ := means readable
  have total : breakdown.total = 60 :=
    Except.ok.inj ((permuted _ (.refl _)).symm.trans sixty)
  rw [total] at permuted scaled
  exact ⟨readable, unreadable, sixty, permuted _ (List.reverse_perm _),
    scaled (1 / 2) (by norm_num), fails _ _ _ rfl readable rfl unreadable⟩

end ScoreBreakdown

end DailySignals
