import DailySignals.Proofs.Backtest.Completion
import DailySignals.Proofs.Scorable
import DailySignals.Trading.Exit

/-!
# Rules that count for nothing

A rule is inert if its kind is not in the registry, or if it can be read and has
no positive weight.  Inert rules leave the contributions to a score as they are,
wherever in a list they stand, and so every breakdown, score and entry gate.

The exit gate never opens without rules, but a list of inert rules is not
without rules: its score is zero, and the gate compares it.  So inert rules are
noticed where they are the first ones of an exit list, and nowhere else.
-/

set_option autoImplicit false

namespace DailySignals

variable {α : Type} [Arithmetic α]

/-- A rule that contributes nothing to any score. -/
inductive ScoringRule.Inert (registry : Registry α) (rule : ScoringRule α) : Prop
  | unknown (absent : registry.find? rule.kind = none)
  | weightless (readable : rule.Readable) (nothing : rule.weight ≤ 0)

/-- The second list is the first with inert rules inserted anywhere. -/
inductive Padded (registry : Registry α) :
    List (ScoringRule α) → List (ScoringRule α) → Prop
  | nil : Padded registry [] []
  | added {rule : ScoringRule α} {plain padded : List (ScoringRule α)}
      (inert : rule.Inert registry) (rest : Padded registry plain padded) :
      Padded registry plain (rule :: padded)
  | kept {rule : ScoringRule α} {plain padded : List (ScoringRule α)}
      (rest : Padded registry plain padded) :
      Padded registry (rule :: plain) (rule :: padded)

/-- Rules come into an exit list that had none, under a threshold above zero. -/
structure FirstExits (plain padded : List (ScoringRule α)) (threshold : α) : Prop where
  none_before : plain = []
  some_after : padded ≠ []
  high : Arithmetic.isPositive threshold = true

/-- Scoring signals that differ in inert rules only. -/
structure ScoringSignals.Padded (registry : Registry α) (plain padded : ScoringSignals α) :
    Prop where
  entry : DailySignals.Padded registry plain.entryRules padded.entryRules
  exit : DailySignals.Padded registry plain.exitRules padded.exitRules
  entryThreshold : padded.entryThreshold = plain.entryThreshold
  exitThreshold : padded.exitThreshold = plain.exitThreshold

/-- A strategy with other signals, which are scores. -/
def Strategy.scoredBy (strategy : Strategy α) (signals : ScoringSignals α) : Strategy α :=
  { strategy with signals := .scoring signals }

variable {registry : Registry α} {snapshot : Snapshot α} {plain padded : List (ScoringRule α)}
  {threshold : α}

namespace Padded

theorem refl (rules : List (ScoringRule α)) : Padded registry rules rules := by
  induction rules with
  | nil => exact .nil
  | cons rule rest ih => exact .kept ih

theorem insert {rule : ScoringRule α} (inert : rule.Inert registry)
    (before after : List (ScoringRule α)) :
    Padded registry (before ++ after) (before ++ rule :: after) := by
  induction before with
  | nil => exact .added inert (refl after)
  | cons first rest ih => exact .kept ih

theorem ne_nil (added : Padded registry plain padded) (some_rules : plain ≠ []) :
    padded ≠ [] := by
  cases added with
  | nil => exact some_rules
  | added inert rest => exact List.cons_ne_nil _ _
  | kept rest => exact List.cons_ne_nil _ _

end Padded

/-! ## Scores -/

theorem ScoringRule.Inert.contributions {rule : ScoringRule α} (inert : rule.Inert registry)
    (rules : List (ScoringRule α)) :
    ScoreBreakdown.contributions registry snapshot (rule :: rules) =
      ScoreBreakdown.contributions registry snapshot rules := by
  rw [ScoreBreakdown.contributions]
  cases found : registry.find? rule.kind with
  | none => rfl
  | some evaluator =>
      cases inert with
      | unknown absent => cases found.symm.trans absent
      | weightless readable nothing =>
          obtain ⟨params, read⟩ := readable
          simp only [read, nothing, if_true]
          cases ScoreBreakdown.contributions registry snapshot rules <;> rfl

namespace Padded

/-- Inert rules are passed over, and a rule that cannot be read is met as
before. -/
theorem contributions (added : Padded registry plain padded) :
    ScoreBreakdown.contributions registry snapshot padded =
      ScoreBreakdown.contributions registry snapshot plain := by
  induction added with
  | nil => rfl
  | added inert rest ih => rw [inert.contributions, ih]
  | kept rest ih => rw [ScoreBreakdown.contributions, ScoreBreakdown.contributions, ih]

theorem compute (added : Padded registry plain padded) :
    ScoreBreakdown.compute registry padded snapshot =
      ScoreBreakdown.compute registry plain snapshot := by
  rw [ScoreBreakdown.compute, ScoreBreakdown.compute, added.contributions]

theorem score (added : Padded registry plain padded) :
    registry.score padded snapshot = registry.score plain snapshot := by
  rw [Registry.score, Registry.score, added.compute]

theorem triggersEntry (added : Padded registry plain padded) :
    registry.triggersEntry padded threshold snapshot =
      registry.triggersEntry plain threshold snapshot := by
  rw [Registry.triggersEntry, Registry.triggersEntry, added.score]

end Padded

/-! ## The exit gate -/

theorem score_nil (reflexive : (0 : α) ≤ 0) : registry.score [] snapshot = .ok 0 := by
  have total : (ScoreBreakdown.ofContributions ([] : List (ScoringRule α × α))).total = 0 := by
    change (if (0 : α) ≤ 0 then (⟨0, []⟩ : ScoreBreakdown α) else _).total = 0
    rw [if_pos reflexive]
  exact congrArg Except.ok total

theorem triggersExit_of_ne_nil (some_rules : plain ≠ []) :
    registry.triggersExit plain threshold snapshot =
      (registry.score plain snapshot).map fun score => decide (score < threshold) := by
  have nonempty : plain.isEmpty = false := by simpa using some_rules
  rw [Registry.triggersExit, nonempty]
  rfl

namespace Padded

/-- A gate that was never open before is open if its threshold lies above zero. -/
theorem triggersExit_of_nil (reflexive : (0 : α) ≤ 0) (added : Padded registry [] padded)
    (some_rules : padded ≠ []) :
    registry.triggersExit padded threshold snapshot =
      .ok (Arithmetic.isPositive threshold) := by
  rw [triggersExit_of_ne_nil some_rules, added.score, score_nil reflexive]
  rfl

/-- The exit gate notices inert rules only where they are the first ones. -/
theorem triggersExit_iff (reflexive : (0 : α) ≤ 0) (added : Padded registry plain padded) :
    registry.triggersExit padded threshold snapshot =
        registry.triggersExit plain threshold snapshot ↔
      ¬ FirstExits plain padded threshold := by
  by_cases none_before : plain = []
  · subst none_before
    have shut : registry.triggersExit [] threshold snapshot = .ok false := rfl
    by_cases none_after : padded = []
    · subst none_after
      exact ⟨fun _ first => first.some_after rfl, fun _ => rfl⟩
    · rw [added.triggersExit_of_nil reflexive none_after, shut, Except.ok.injEq]
      constructor
      · intro low first
        cases low.symm.trans first.high
      · intro unnoticed
        exact Bool.eq_false_iff.mpr fun high => unnoticed ⟨rfl, none_after, high⟩
  · have same : registry.triggersExit padded threshold snapshot =
        registry.triggersExit plain threshold snapshot := by
      rw [triggersExit_of_ne_nil none_before,
        triggersExit_of_ne_nil (added.ne_nil none_before), added.score]
    exact ⟨fun _ first => none_before first.none_before, fun _ => same⟩

end Padded

/-! ## Strategies -/

/-- A second choice changes an answer only where there was none. -/
theorem map_or_eq_self_iff {ε β : Type} {answer : Except ε (Option β)} {other : β} :
    answer.map (fun found => found.or (some other)) = answer ↔ answer ≠ .ok none := by
  cases answer with
  | error fault => exact ⟨fun _ => nofun, fun _ => rfl⟩
  | ok found =>
      cases found with
      | none => exact ⟨nofun, fun present => (present rfl).elim⟩
      | some value => exact ⟨fun _ => nofun, fun _ => rfl⟩

namespace ScoringSignals.Padded

variable {strategy : Strategy α} {before after : ScoringSignals α} {position : Position α}
  {mark : α}

theorem entrySignal (added : before.Padded registry after) :
    (strategy.scoredBy after).entrySignal registry snapshot =
      (strategy.scoredBy before).entrySignal registry snapshot := by
  change registry.triggersEntry after.entryRules after.entryThreshold snapshot =
    registry.triggersEntry before.entryRules before.entryThreshold snapshot
  rw [added.entry.triggersEntry, added.entryThreshold]

/-- What the exit gate answers is all that a day's decision can notice. -/
theorem signal (added : before.Padded registry after)
    (sameGate : registry.triggersExit after.exitRules before.exitThreshold snapshot =
      registry.triggersExit before.exitRules before.exitThreshold snapshot) :
    Exit.signal (strategy.scoredBy after) registry snapshot =
      Exit.signal (strategy.scoredBy before) registry snapshot := by
  simp only [Exit.signal, Strategy.scoredBy, added.entry.score, added.entryThreshold,
    added.exitThreshold, sameGate]

theorem decision (added : before.Padded registry after)
    (sameGate : registry.triggersExit after.exitRules before.exitThreshold snapshot =
      registry.triggersExit before.exitRules before.exitThreshold snapshot) :
    Exit.decision (strategy.scoredBy after) registry snapshot position mark =
      Exit.decision (strategy.scoredBy before) registry snapshot position mark := by
  have sameStops : (strategy.scoredBy after).hardStops = (strategy.scoredBy before).hardStops :=
    rfl
  rw [Exit.decision, Exit.decision, sameStops, added.signal sameGate]

/-- Where inert rules are the first ones of an exit list, they sell on the days
that called for no exit, and on no other. -/
theorem decision_of_first (reflexive : (0 : α) ≤ 0) (added : before.Padded registry after)
    (first : FirstExits before.exitRules after.exitRules before.exitThreshold) :
    Exit.decision (strategy.scoredBy after) registry snapshot position mark =
      (Exit.decision (strategy.scoredBy before) registry snapshot position mark).map
        fun reason => reason.or (some .sellCondition) := by
  have first_rules : DailySignals.Padded registry [] after.exitRules :=
    first.none_before ▸ added.exit
  have opens : registry.triggersExit after.exitRules before.exitThreshold snapshot = .ok true := by
    rw [first_rules.triggersExit_of_nil reflexive first.some_after, first.high]
  have shut : registry.triggersExit before.exitRules before.exitThreshold snapshot =
      .ok false := by
    rw [first.none_before]
    rfl
  have signals : Exit.signal (strategy.scoredBy after) registry snapshot =
      (Exit.signal (strategy.scoredBy before) registry snapshot).map
        fun reason => reason.or (some .sellCondition) := by
    simp only [Exit.signal, Strategy.scoredBy, added.entry.score, added.entryThreshold,
      added.exitThreshold, opens, shut]
    cases registry.score before.entryRules snapshot with
    | error fault => rfl
    | ok score =>
        by_cases decayed : score < before.entryThreshold * Exit.decayFraction
        · simp only [bind, Except.bind, decayed, if_true]
          rfl
        · simp only [bind, Except.bind, decayed, if_false]
          rfl
  have sameStops : (strategy.scoredBy after).hardStops = (strategy.scoredBy before).hardStops :=
    rfl
  rw [Exit.decision, Exit.decision, sameStops, signals]
  simp only
  cases Exit.hardStop position.entryPrice mark (strategy.scoredBy before).hardStops.1
    (strategy.scoredBy before).hardStops.2 with
  | none => rfl
  | some reason => rfl

/-- What a day calls for changes only if the exit gate does, and it called for
nothing. -/
theorem decision_iff (reflexive : (0 : α) ≤ 0) (added : before.Padded registry after) :
    Exit.decision (strategy.scoredBy after) registry snapshot position mark =
        Exit.decision (strategy.scoredBy before) registry snapshot position mark ↔
      ¬ (FirstExits before.exitRules after.exitRules before.exitThreshold ∧
        Exit.decision (strategy.scoredBy before) registry snapshot position mark = .ok none) := by
  by_cases first : FirstExits before.exitRules after.exitRules before.exitThreshold
  · rw [added.decision_of_first reflexive first, map_or_eq_self_iff]
    exact ⟨fun exits both => exits both.2, fun unnoticed calm => unnoticed ⟨first, calm⟩⟩
  · have sameGate : registry.triggersExit after.exitRules before.exitThreshold snapshot =
        registry.triggersExit before.exitRules before.exitThreshold snapshot :=
      (added.exit.triggersExit_iff reflexive).mpr first
    exact ⟨fun _ both => first both.1, fun _ => added.decision sameGate⟩

end ScoringSignals.Padded

/-! ## Doubles -/

theorem zero_le_zero : @OfNat.ofNat Float 0 (Arithmetic.instOfNat 0) ≤
    @OfNat.ofNat Float 0 (Arithmetic.instOfNat 0) := by
  decide +kernel

/-- Inert rules change no breakdown, no score and no entry signal.  They change
the exit gate exactly where they are the first rules of an exit list whose
threshold lies above zero, and there they change what a day calls for exactly if
it called for no exit. -/
theorem inert_rules_unnoticed (registry : Registry Float) (snapshot : Snapshot Float)
    (plain padded : List (ScoringRule Float)) (threshold : Float)
    (added : Padded registry plain padded) :
    ScoreBreakdown.compute registry padded snapshot =
        ScoreBreakdown.compute registry plain snapshot ∧
      registry.score padded snapshot = registry.score plain snapshot ∧
      registry.triggersEntry padded threshold snapshot =
        registry.triggersEntry plain threshold snapshot ∧
      (registry.triggersExit padded threshold snapshot =
          registry.triggersExit plain threshold snapshot ↔
        ¬ FirstExits plain padded threshold) ∧
      ∀ (strategy : Strategy Float) (before after : ScoringSignals Float),
        before.Padded registry after →
        (strategy.scoredBy after).entrySignal registry snapshot =
            (strategy.scoredBy before).entrySignal registry snapshot ∧
          ∀ (position : Position Float) (mark : Float),
            Exit.decision (strategy.scoredBy after) registry snapshot position mark =
                Exit.decision (strategy.scoredBy before) registry snapshot position mark ↔
              ¬ (FirstExits before.exitRules after.exitRules before.exitThreshold ∧
                Exit.decision (strategy.scoredBy before) registry snapshot position mark =
                  .ok none) := by
  refine ⟨added.compute, added.score, added.triggersEntry, added.triggersExit_iff zero_le_zero,
    ?_⟩
  intro strategy before after inserted
  exact ⟨inserted.entrySignal, fun position mark => inserted.decision_iff zero_le_zero⟩

namespace Sample

/-- A successful row of doubles that is known by its score. -/
def scoredRow (score : Float) : Snapshot Float where
  symbol := "XYZ"
  market := ""
  industry := ""
  date := secondDay
  close := 101
  change := 0
  changeRate := 0
  return5 := none
  return20 := none
  return60 := none
  ma5 := none
  ma10 := none
  ma20 := none
  ma60 := none
  deviation20 := none
  high20 := none
  low20 := none
  rangePos20 := none
  volumeMultiple := none
  amplitude := none
  avgAmplitude20 := none
  score := score
  tags := []
  success := true
  errorReason := none

def baseRule : ScoringRule Float :=
  ⟨"BASE_SCORE", "", 60, .entry⟩

def unknownRule : ScoringRule Float :=
  ⟨"SENTIMENT", "not read", 99, .exit⟩

def weightlessRule : ScoringRule Float :=
  ⟨"VOLUME_SURGE", "\x7b\"min\": 1.5\x7d", -5, .exit⟩

def scoring (exitRules : List (ScoringRule Float)) : ScoringSignals Float :=
  ⟨[baseRule], exitRules, 70, 40⟩

def graded : Strategy Float where
  name := "graded"
  description := ""
  symbol := "XYZ"
  signals := .scoring (scoring [])
  risk := .frictionless

theorem graded_valid : graded.validate = .ok () :=
  eq_ok_of_toBool (by decide +kernel)

theorem unknownRule_inert : unknownRule.Inert Registry.builtin :=
  .unknown rfl

theorem weightlessRule_inert : weightlessRule.Inert Registry.builtin :=
  .weightless (ScoringRule.readable_of_isSome (by decide +kernel)) (by decide +kernel)

theorem padded_rules :
    Padded Registry.builtin [baseRule] [unknownRule, baseRule, weightlessRule] :=
  .added unknownRule_inert (.insert weightlessRule_inert [baseRule] [])

/-- The signals of `scoring`, with inert rules around the entry rule. -/
def paddedScoring : ScoringSignals Float :=
  ⟨[unknownRule, baseRule, weightlessRule], [], 70, 40⟩

theorem padded_scoring : (scoring []).Padded Registry.builtin paddedScoring :=
  ⟨padded_rules, .nil, rfl, rfl⟩

end Sample

/-- An unknown kind in front and a negative weight behind are not noticed. -/
theorem inert_rules_unnoticed_around :
    Padded Registry.builtin [Sample.baseRule]
        [Sample.unknownRule, Sample.baseRule, Sample.weightlessRule] ∧
      (Sample.scoring []).Padded Registry.builtin Sample.paddedScoring ∧
      Registry.builtin.score [Sample.unknownRule, Sample.baseRule, Sample.weightlessRule]
          (Sample.scoredRow 80) =
        Registry.builtin.score [Sample.baseRule] (Sample.scoredRow 80) ∧
      (Sample.graded.scoredBy Sample.paddedScoring).entrySignal Registry.builtin
          (Sample.scoredRow 80) =
        (Sample.graded.scoredBy (Sample.scoring [])).entrySignal Registry.builtin
          (Sample.scoredRow 80) := by
  obtain ⟨_, sameScore, _, _, strategies⟩ := inert_rules_unnoticed Registry.builtin
    (Sample.scoredRow 80) _ _ 40 Sample.padded_rules
  obtain ⟨sameSignal, _⟩ := strategies Sample.graded _ _ Sample.padded_scoring
  exact ⟨Sample.padded_rules, Sample.padded_scoring, sameScore, sameSignal⟩

/-- One exit rule of an unknown kind, where there was none, sells what would
have been kept. -/
theorem exit_gate_notices_unknown_rule :
    Sample.unknownRule.Inert Registry.builtin ∧
      Registry.builtin.triggersExit [] 40 (Sample.scoredRow 80) = .ok false ∧
      Registry.builtin.triggersExit [Sample.unknownRule] 40 (Sample.scoredRow 80) = .ok true ∧
      Exit.decision (Sample.graded.scoredBy (Sample.scoring [])) Registry.builtin
        (Sample.scoredRow 80) (Position.opened Sample.firstDay 100 1) 101 = .ok none ∧
      Exit.decision (Sample.graded.scoredBy (Sample.scoring [Sample.unknownRule]))
        Registry.builtin (Sample.scoredRow 80) (Position.opened Sample.firstDay 100 1) 101 =
          .ok (some .sellCondition) := by
  exact ⟨Sample.unknownRule_inert, rfl, eq_ok_of_toOption (by decide +kernel),
    eq_ok_of_toOption (by decide +kernel), eq_ok_of_toOption (by decide +kernel)⟩

end DailySignals
