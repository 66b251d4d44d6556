import DailySignals.Scoring.Registry

/-!
# Weighted scores

The score of a snapshot under a list of rules is the weighted mean of what the
rules contribute, on a scale of a hundred.  Rules of a kind that is not in the
registry, and rules without positive weight, contribute nothing.
-/

set_option autoImplicit false

namespace DailySignals

/-- One rule's share of a score. -/
structure ScoreComponent (α : Type) where
  kind : String
  contribution : α
  weight : α
  points : α

structure ScoreBreakdown (α : Type) where
  total : α
  components : List (ScoreComponent α)

namespace ScoreBreakdown

variable {α : Type} [Arithmetic α]

/-- The rules that count, each with its contribution.  The first rule of a
known kind whose parameters cannot be read is the fault of the whole list. -/
def contributions (registry : Registry α) (snapshot : Snapshot α) :
    List (ScoringRule α) → Except ParamsFault (List (ScoringRule α × α))
  | [] => .ok []
  | rule :: rules =>
      match registry.find? rule.kind with
      | none => contributions registry snapshot rules
      | some evaluator => do
          let params ← rule.readParams
          let others ← contributions registry snapshot rules
          if rule.weight ≤ 0 then return others
          else return (rule, evaluator params snapshot) :: others

def component (totalWeight : α) (rule : ScoringRule α) (contribution : α) :
    ScoreComponent α where
  kind := rule.kind
  contribution := contribution
  weight := rule.weight
  points := contribution * rule.weight / totalWeight * 100

/-- The score made of the rules that count. -/
def ofContributions (weighted : List (ScoringRule α × α)) : ScoreBreakdown α :=
  let totalWeight := Arithmetic.total (weighted.map fun (rule, _) => rule.weight)
  if totalWeight ≤ 0 then ⟨0, []⟩
  else
    let components := weighted.map fun (rule, contribution) =>
      component totalWeight rule contribution
    let weightedSum := Arithmetic.sum
      (components.map fun component => component.contribution * component.weight)
    ⟨weightedSum / totalWeight * 100, components⟩

def compute (registry : Registry α) (rules : List (ScoringRule α)) (snapshot : Snapshot α) :
    Except ParamsFault (ScoreBreakdown α) :=
  (contributions registry snapshot rules).map ofContributions

end ScoreBreakdown

namespace Registry

variable {α : Type} [Arithmetic α]

def score (registry : Registry α) (rules : List (ScoringRule α)) (snapshot : Snapshot α) :
    Except ParamsFault α :=
  (ScoreBreakdown.compute registry rules snapshot).map (·.total)

/-- Whether the score reaches the threshold. -/
def triggersEntry (registry : Registry α) (rules : List (ScoringRule α)) (threshold : α)
    (snapshot : Snapshot α) : Except ParamsFault Bool :=
  (registry.score rules snapshot).map fun score => decide (threshold ≤ score)

/-- Whether the score lies below the threshold; never without rules. -/
def triggersExit (registry : Registry α) (rules : List (ScoringRule α)) (threshold : α)
    (snapshot : Snapshot α) : Except ParamsFault Bool :=
  if rules.isEmpty then .ok false
  else (registry.score rules snapshot).map fun score => decide (score < threshold)

end Registry

/-- Named facts, each with a weight. -/
structure WeightedFact (α : Type) where
  name : String
  weight : α

namespace WeightedFact

variable {α : Type} [Arithmetic α]

/-- The sum of the positive weights whose fact is true; a fact that is not
stated is false. -/
def score (truth : List (String × Bool)) (facts : List (WeightedFact α)) : α :=
  Arithmetic.sum
    ((facts.filter fun fact =>
      Arithmetic.isPositive fact.weight && (truth.lookup fact.name).getD false).map (·.weight))

def reaches (truth : List (String × Bool)) (facts : List (WeightedFact α)) (threshold : α) :
    Bool :=
  decide (threshold ≤ score truth facts)

end WeightedFact

end DailySignals
