import DailySignals.Proofs.NumberOrder
import DailySignals.Proofs.Scoring.Inert
import DailySignals.Screen.Filter

/-!
# What a coarse filter lets through

A filter is a conjunction of restrictions (`SnapshotFilter.Accepted`), and a
condition that is added to it may only narrow it down as far as the condition
itself goes.  So a snapshot that satisfies every condition of a set passes the
filter made from them, in whatever order and however often they come.
-/

set_option autoImplicit false

namespace DailySignals

variable {α : Type}

/-- A list that is empty permits everything, any other what one of its entries
admits. -/
def Permits {β : Type} (listed : List β) (admits : β → Prop) : Prop :=
  listed = [] ∨ ∃ entry ∈ listed, admits entry

theorem Permits.append {β : Type} {listed added : List β} {admits : β → Prop}
    (before : Permits listed admits) (new : Permits added admits) :
    Permits (listed ++ added) admits := by
  rcases new with rfl | ⟨entry, member, admitted⟩
  · rw [List.append_nil]
    exact before
  · exact .inr ⟨entry, List.mem_append_right _ member, admitted⟩

theorem permits_iff {β : Type} {listed : List β} {test : β → Bool} :
    (listed.isEmpty || listed.any test) = true ↔ Permits listed fun entry => test entry = true := by
  rw [Bool.or_eq_true, List.isEmpty_iff, List.any_eq_true]
  exact Iff.rfl

variable [Arithmetic α]

/-- A value that satisfies a comparison is not outside its bounds. -/
theorem Comparison.not_outside_bounds [LawfulOrder α] {comparison : Comparison α} {value : α}
    (satisfied : comparison.holds value = true) :
    (∀ least, comparison.bounds.1 = some least → ¬ value < least) ∧
      ∀ greatest, comparison.bounds.2 = some greatest → ¬ greatest < value := by
  cases comparison with
  | above bound =>
      refine ⟨?_, nofun⟩
      rintro _ ⟨⟩
      exact LawfulOrder.not_lt_of_lt (of_decide_eq_true satisfied)
  | atLeast bound =>
      refine ⟨?_, nofun⟩
      rintro _ ⟨⟩
      exact LawfulOrder.not_lt_of_le (of_decide_eq_true satisfied)
  | below bound =>
      refine ⟨nofun, ?_⟩
      rintro _ ⟨⟩
      exact LawfulOrder.not_lt_of_lt (of_decide_eq_true satisfied)
  | atMost bound =>
      refine ⟨nofun, ?_⟩
      rintro _ ⟨⟩
      exact LawfulOrder.not_lt_of_le (of_decide_eq_true satisfied)
  | between least greatest =>
      rw [Comparison.holds, Bool.and_eq_true, decide_eq_true_eq, decide_eq_true_eq] at satisfied
      constructor
      · rintro _ ⟨⟩
        exact LawfulOrder.not_lt_of_le satisfied.1
      · rintro _ ⟨⟩
        exact LawfulOrder.not_lt_of_le satisfied.2

namespace SnapshotFilter

variable {filter : SnapshotFilter α} {snapshot : Snapshot α}

/-- The restrictions of a filter, one by one. -/
structure Accepted (filter : SnapshotFilter α) (snapshot : Snapshot α) : Prop where
  success : filter.onlySuccess = true → snapshot.success = true
  market : Permits filter.markets fun value =>
    Text.sameName (Text.trim value) (Text.trim snapshot.market) = true
  industry : Permits filter.industries fun value =>
    Text.sameName (Text.trim value) (Text.trim snapshot.industry) = true
  symbol : Permits filter.symbols fun value => snapshot.symbol = value
  tagsAny : Permits filter.tagsAny fun tag => snapshot.hasTag tag = true
  tagsAll : ∀ tag ∈ filter.tagsAll, snapshot.hasTag tag = true
  ranges : ∀ range ∈ filter.ranges, inRange snapshot range = true

theorem accepts_iff : filter.accepts snapshot = true ↔ filter.Accepted snapshot := by
  unfold accepts namesValue
  rw [List.contains_eq_any_beq]
  simp only [Bool.and_eq_true, permits_iff, List.all_eq_true, beq_iff_eq]
  rw [Bool.or_eq_true, Bool.not_eq_true', ← Bool.not_eq_true, ← imp_iff_not_or]
  constructor
  · rintro ⟨⟨⟨⟨⟨⟨success, market⟩, industry⟩, symbol⟩, tagsAny⟩, tagsAll⟩, ranges⟩
    exact ⟨success, market, industry, symbol, tagsAny, tagsAll, ranges⟩
  · intro accepted
    exact ⟨⟨⟨⟨⟨⟨accepted.success, accepted.market⟩, accepted.industry⟩, accepted.symbol⟩,
      accepted.tagsAny⟩, accepted.tagsAll⟩, accepted.ranges⟩

theorem accepted_successful (success : snapshot.success = true) :
    (successful : SnapshotFilter α).Accepted snapshot where
  success := fun _ => success
  market := .inl rfl
  industry := .inl rfl
  symbol := .inl rfl
  tagsAny := .inl rfl
  tagsAll := nofun
  ranges := nofun

variable [LawfulOrder α]

theorem inRange_of_holds {field : Field} {comparison : Comparison α}
    (satisfied : Condition.holds snapshot (.numeric field comparison) = true) :
    inRange snapshot ⟨field, comparison.bounds.1, comparison.bounds.2⟩ = true := by
  change (snapshot.value? field).any comparison.holds = true at satisfied
  unfold inRange
  cases found : snapshot.value? field with
  | none =>
      rw [found] at satisfied
      cases satisfied
  | some value =>
      rw [found] at satisfied
      obtain ⟨notBelow, notAbove⟩ := Comparison.not_outside_bounds satisfied
      simp only [Option.any_some, Bool.and_eq_true, Bool.not_eq_true', Option.any_eq_false,
        decide_eq_false_iff_not]
      exact ⟨notBelow, notAbove⟩

/-- A condition that a snapshot satisfies does not narrow a filter down so far
that the snapshot is kept out. -/
theorem Accepted.narrow (accepted : filter.Accepted snapshot) {condition : Condition α}
    (satisfied : condition.holds snapshot = true) :
    (filter.narrow condition).Accepted snapshot := by
  cases condition with
  | numeric field comparison =>
      change (if field.isKnown then
        { filter with ranges := filter.ranges ++
            [⟨field, comparison.bounds.1, comparison.bounds.2⟩] }
        else filter).Accepted snapshot
      split
      · refine { accepted with ranges := ?_ }
        intro range member
        rcases List.mem_append.mp member with earlier | new
        · exact accepted.ranges range earlier
        · rw [List.mem_singleton] at new
          rw [new]
          exact inRange_of_holds satisfied
      · exact accepted
  | category kind values =>
      cases kind with
      | market =>
          have named := List.any_eq_true.mp satisfied
          exact { accepted with market := accepted.market.append (.inr named) }
      | industry =>
          have named := List.any_eq_true.mp satisfied
          exact { accepted with industry := accepted.industry.append (.inr named) }
      | other name => exact accepted
  | tags anyOf allOf noneOf =>
      rw [Condition.holds, Bool.and_eq_true, Bool.and_eq_true, permits_iff,
        List.all_eq_true] at satisfied
      obtain ⟨⟨all, any⟩, _⟩ := satisfied
      refine { accepted with tagsAny := accepted.tagsAny.append any, tagsAll := ?_ }
      intro tag member
      rcases List.mem_append.mp member with earlier | new
      · exact accepted.tagsAll tag earlier
      · exact all tag new
  | symbols admitted refused =>
      rw [Condition.holds, Bool.and_eq_true, List.contains_eq_any_beq, permits_iff] at satisfied
      simp only [beq_iff_eq] at satisfied
      exact { accepted with symbol := accepted.symbol.append satisfied.1 }

theorem Accepted.narrowAll {conditions : List (Condition α)} (accepted : filter.Accepted snapshot)
    (satisfied : ∀ condition ∈ conditions, condition.holds snapshot = true) :
    (conditions.foldl SnapshotFilter.narrow filter).Accepted snapshot := by
  induction conditions generalizing filter with
  | nil => exact accepted
  | cons condition rest ih =>
      apply ih
      · exact accepted.narrow (satisfied condition (by simp))
      · exact fun other member => satisfied other (List.mem_cons_of_mem _ member)

/-- The filter of a set accepts the successful snapshots that satisfy the set. -/
theorem accepted_ofSet {set : ConditionSet α} (success : snapshot.success = true)
    (satisfied : set.holds .everything snapshot = true) : (ofSet set).Accepted snapshot := by
  unfold ofSet
  cases logic : set.logic with
  | any => exact accepted_successful success
  | all =>
      apply (accepted_successful success).narrowAll
      unfold ConditionSet.holds at satisfied
      by_cases empty : set.isEmpty = true
      · rw [ConditionSet.isEmpty, List.isEmpty_iff] at empty
        rw [empty]
        nofun
      · rw [if_neg empty, logic] at satisfied
        exact List.all_eq_true.mp satisfied

end SnapshotFilter

namespace Sample

/-- A row of one market, known by its score. -/
def americanRow (score : Float) : Snapshot Float :=
  { scoredRow score with market := "US", tags := [.nearHigh, .volumeSurge] }

/-- Conditions of all kinds, most of them twice, with a bound that is infinite. -/
def mergedConditions : ConditionSet Float :=
  .all [.category .market ["HK", " us "], .category .market ["US"],
    .numeric .score (.above 50), .numeric .close (.atMost (Float.ofBits 0x7FF0000000000000)),
    .tags [.nearLow, .nearHigh] [] [.highVolatility], .tags [.volumeSurge] [.nearHigh] [],
    .symbols ["XYZ", "ABC"] [], .symbols [] ["ABC"]]

end Sample

namespace SnapshotFilter

/-- A filter made from a set keeps out no successful snapshot that satisfies the set,
whatever the logic of the set, its conditions and their bounds. -/
theorem accepts_ofSet_of_holds [LawfulOrder α] (set : ConditionSet α) (snapshot : Snapshot α)
    (success : snapshot.success = true) (satisfied : set.holds .everything snapshot = true) :
    (ofSet set).accepts snapshot = true := by
  have accepted : (ofSet set).Accepted snapshot := accepted_ofSet success satisfied
  exact accepts_iff.mpr accepted

/-- The lists of several conditions are one list in the filter. -/
theorem accepts_ofSet_of_holds_merged :
    (Sample.americanRow 60).success = true ∧
      Sample.mergedConditions.holds .everything (Sample.americanRow 60) = true ∧
      (ofSet Sample.mergedConditions).accepts (Sample.americanRow 60) = true := by
  have satisfied : Sample.mergedConditions.holds .everything (Sample.americanRow 60) = true := by
    decide +kernel
  exact ⟨rfl, satisfied, accepts_ofSet_of_holds _ _ rfl satisfied⟩

/-- A bound that excludes its own value is relaxed: rows are to be checked again. -/
example : (ofSet Sample.mergedConditions).accepts (Sample.americanRow 50) = true ∧
    Sample.mergedConditions.holds .everything (Sample.americanRow 50) = false := by
  decide +kernel

end SnapshotFilter

end DailySignals
