import DailySignals.Proofs.Condition.Rendering

/-!
# What validation adds to reading

Reading settles the shape of a condition: what has been read is regular, and a
regular condition has every part that validation asks for.  So validation refuses
a set that was read for its numbers only.  The converse fails.  Validation looks
at less than the regular form, and a set that was built by hand and passes is
read back from its text just when it is regular.
-/

set_option autoImplicit false

namespace DailySignals

open Text Scanner Grammar

namespace Condition

variable {α : Type}

namespace Defect

/-- The defects that are no matter of numbers: a part is missing. -/
def ofParts : List (Defect α) :=
  [.fieldMissing, .categoryMissing, .valuesMissing, .tagsMissing, .symbolsMissing]

end Defect

variable [Arithmetic α]

/-- What can be wrong with the numbers of a condition, and the defect that says so. -/
inductive NumbersFail : Condition α → Defect α → Prop
  | notFinite {field : Field} {comparison : Comparison α} {bound : α}
      (member : bound ∈ comparison.operands) (infinite : Arithmetic.isFinite bound = false) :
      NumbersFail (.numeric field comparison) (.boundNotFinite field)
  | reversed {field : Field} {least greatest : α} (above : greatest < least) :
      NumbersFail (.numeric field (.between least greatest))
        (.rangeReversed field least greatest)

theorem NumbersFail.not_ofParts {condition : Condition α} {defect : Defect α}
    (fails : NumbersFail condition defect) : defect ∉ Defect.ofParts := by
  cases fails with
  | notFinite => simp [Defect.ofParts]
  | reversed => simp [Defect.ofParts]

theorem numbersFail_numeric_iff {field : Field} {comparison : Comparison α} :
    (∃ defect, NumbersFail (.numeric field comparison) defect) ↔
      (∃ bound ∈ comparison.operands, Arithmetic.isFinite bound = false) ∨
        ∃ least greatest, comparison = .between least greatest ∧ greatest < least := by
  constructor
  · rintro ⟨_, ⟨member, infinite⟩ | ⟨above⟩⟩
    · exact .inl ⟨_, member, infinite⟩
    · exact .inr ⟨_, _, rfl, above⟩
  · rintro (⟨bound, member, infinite⟩ | ⟨least, greatest, rfl, above⟩)
    · exact ⟨_, .notFinite member infinite⟩
    · exact ⟨_, .reversed above⟩

/-! ## Validation of regular conditions -/

theorem isFiniteBound_bounds_iff (comparison : Comparison α) :
    (!isFiniteBound comparison.bounds.1 || !isFiniteBound comparison.bounds.2) = true ↔
      ∃ bound ∈ comparison.operands, Arithmetic.isFinite bound = false := by
  cases comparison with
  | above => simp [Comparison.bounds, Comparison.operands, isFiniteBound]
  | atLeast => simp [Comparison.bounds, Comparison.operands, isFiniteBound]
  | below => simp [Comparison.bounds, Comparison.operands, isFiniteBound]
  | atMost => simp [Comparison.bounds, Comparison.operands, isFiniteBound]
  | between => simp [Comparison.bounds, Comparison.operands, isFiniteBound]

/-- A comparison of a field with a name is refused for its numbers only. -/
theorem judges_comparison {field : Field} (named : field.name.isEmpty = false)
    (comparison : Comparison α) :
    Judges (NumbersFail (.numeric field comparison)) (validateComparison field comparison) := by
  by_cases infinite :
      (!isFiniteBound comparison.bounds.1 || !isFiniteBound comparison.bounds.2) = true
  · obtain ⟨bound, member, notFinite⟩ := (isFiniteBound_bounds_iff comparison).mp infinite
    refine .of_error ?_ (.notFinite member notFinite)
    simp only [validateComparison, named, infinite, Bool.false_eq_true, if_false, if_true]
    rfl
  · have finite : ¬ ∃ bound ∈ comparison.operands, Arithmetic.isFinite bound = false :=
      fun found => infinite ((isFiniteBound_bounds_iff comparison).mpr found)
    by_cases reversed : ∃ least greatest, comparison = .between least greatest ∧ greatest < least
    · obtain ⟨least, greatest, rfl, above⟩ := reversed
      refine .of_error ?_ (.reversed above)
      simp only [validateComparison, named, infinite, above, Bool.false_eq_true, if_false, if_true]
      rfl
    · refine .of_ok ?_ ?_
      · unfold validateComparison
        simp only [named, infinite, Bool.false_eq_true, if_false]
        split
        · next least greatest => exact if_neg fun above => reversed ⟨least, greatest, rfl, above⟩
        · rfl
      · rw [numbersFail_numeric_iff]
        exact fun failed => failed.elim finite reversed

theorem isEmpty_of_isName {name : String} (isName : IsName name.toList) :
    name.isEmpty = false := by
  rw [← Bool.not_eq_true, String.isEmpty_iff]
  rintro rfl
  exact isName.nonempty rfl

theorem isAllBlank_of_isValue {value : String} (isValue : IsValue value.toList) :
    Text.isAllBlank value = false := by
  obtain ⟨c, rest, spelled, notBlank⟩ := isValue.solid
  simp [Text.isAllBlank, spelled, notBlank]

/-- Of the shape of a regular condition nothing is left to refuse. -/
theorem judges_validate {condition : Condition α} (regular : condition.IsRegular) :
    Judges (NumbersFail condition) condition.validate := by
  cases condition with
  | numeric field comparison => exact judges_comparison (isEmpty_of_isName regular.1) comparison
  | category kind values =>
      obtain ⟨own, nonempty, areValues⟩ := regular
      refine .of_ok ?_ nofun
      have named : kind ≠ .other "" := by
        rintro rfl
        exact own.1.nonempty rfl
      have notBlank : ¬ values.all Text.isAllBlank = true := by
        intro blank
        obtain ⟨value, member⟩ := List.exists_mem_of_ne_nil _ nonempty
        have notBlank := isAllBlank_of_isValue (areValues value member)
        rw [List.all_eq_true.mp blank value member] at notBlank
        cases notBlank
      rw [validate, if_neg named, if_neg notBlank]
      rfl
  | tags anyOf allOf noneOf =>
      refine .of_ok ?_ nofun
      have some_tag : ¬ (anyOf.isEmpty && allOf.isEmpty && noneOf.isEmpty) = true := by
        simpa [and_assoc] using regular.1
      rw [validate, if_neg some_tag]
      rfl
  | symbols admitted refused =>
      refine .of_ok ?_ nofun
      have some_symbol : ¬ (admitted.isEmpty && refused.isEmpty) = true := by
        simpa using regular.1
      rw [validate, if_neg some_symbol]
      rfl

end Condition

namespace ConditionSet

variable {α : Type} [Arithmetic α]

theorem numbersFail_iff {set : ConditionSet α} :
    (∃ defect, ∃ condition ∈ set.conditions, condition.NumbersFail defect) ↔
      (∃ bound ∈ set.bounds, Arithmetic.isFinite bound = false) ∨
        ∃ field least greatest, .numeric field (.between least greatest) ∈ set.conditions ∧
          greatest < least := by
  constructor
  · rintro ⟨_, _, member, ⟨inside, infinite⟩ | ⟨above⟩⟩
    · exact .inl ⟨_, List.mem_flatMap.mpr ⟨_, member, inside⟩, infinite⟩
    · exact .inr ⟨_, _, _, member, above⟩
  · rintro (⟨bound, member, infinite⟩ | ⟨field, least, greatest, member, above⟩)
    · obtain ⟨condition, member, inside⟩ := List.mem_flatMap.mp member
      cases condition with
      | numeric field comparison => exact ⟨_, _, member, .notFinite inside infinite⟩
      | category kind values => cases inside
      | tags anyOf allOf noneOf => cases inside
      | symbols admitted refused => cases inside
    · exact ⟨_, _, member, .reversed above⟩

/-- A set that was read is refused exactly if one of its bounds is not finite or
one of its ranges ends below its start, and never because a part is missing. -/
theorem validate_of_parse {text : String} {set : ConditionSet α}
    (success : parse text = .ok set) :
    ((∃ defect, set.validate = .error defect) ↔
      (∃ bound ∈ set.bounds, Arithmetic.isFinite bound = false) ∨
        ∃ field least greatest, .numeric field (.between least greatest) ∈ set.conditions ∧
          greatest < least) ∧
      ∀ defect, set.validate = .error defect →
        defect ∉ Condition.Defect.ofParts ∧
          ∃ condition ∈ set.conditions, condition.NumbersFail defect := by
  have judges : Judges
      (fun defect => ∃ condition ∈ set.conditions, condition.NumbersFail defect) set.validate :=
    .forM fun condition member =>
      Condition.judges_validate (isRegular_of_parse success condition member)
  constructor
  · rw [judges.fails_iff, numbersFail_iff]
  · intro defect failed
    obtain ⟨condition, member, fails⟩ := judges.sound defect failed
    exact ⟨fails.not_ofParts, condition, member, fails⟩

/-- A range the wrong way round behind a sound one, a bound that is too large for
a double, and clauses of tags that come twice. -/
theorem validate_of_parse_sample :
    let ranges : ConditionSet Float :=
      .all [.numeric .score (.between 1.0 5.0), .numeric .close (.between 5.0 1.0)]
    let overflowing := String.ofList ("LT(close, ".toList ++ List.replicate 311 '9' ++ [')'])
    let tagged : ConditionSet Float :=
      ⟨.any, [.tags [.other "calm", .nearHigh] [] [.nearLow]]⟩
    (parse "ALL(BETWEEN(score, 1, 5), BETWEEN(close, 5, 1))" = .ok ranges ∧
        ∃ defect, ranges.validate = .error defect) ∧
      (∃ set : ConditionSet Float, parse overflowing = .ok set ∧
        ∃ defect, set.validate = .error defect) ∧
      parse "ANY( TAGS(ANY(calm), NONE(near_low ), ANY(NEAR_HIGH)) )" = .ok tagged ∧
        ¬ ∃ defect, tagged.validate = .error defect := by
  intro ranges overflowing tagged
  have readRanges : parse "ALL(BETWEEN(score, 1, 5), BETWEEN(close, 5, 1))" = .ok ranges :=
    eq_ok_of_toOption (by decide +kernel)
  have readTagged :
      parse "ANY( TAGS(ANY(calm), NONE(near_low ), ANY(NEAR_HIGH)) )" = .ok tagged :=
    eq_ok_of_toOption (by decide +kernel)
  let infinite : Float := 1.0 / 0.0
  have readInfinite : parse overflowing = .ok (.all [.numeric .close (.below infinite)]) := by
    rw [parse, mapError_eq_ok, String.toList_ofList]
    exact eq_ok_of_toOption (by decide +kernel)
  refine ⟨⟨readRanges, (validate_of_parse readRanges).1.mpr (.inr ?_)⟩,
    ⟨_, readInfinite, (validate_of_parse readInfinite).1.mpr (.inl ?_)⟩, readTagged, ?_⟩
  · exact ⟨.close, 5.0, 1.0, by simp [ranges, all], by decide +kernel⟩
  · exact ⟨infinite, List.mem_singleton_self _, by decide +kernel⟩
  · rw [(validate_of_parse readTagged).1]
    rintro (⟨bound, member, _⟩ | ⟨_, _, _, member, _⟩)
    · cases member
    · simp [tagged] at member

/-! ## Sets that were built by hand -/

theorem isFinite_of_validate {set : ConditionSet α} (valid : set.validate = .ok ()) :
    ∀ bound ∈ set.bounds, Arithmetic.isFinite bound = true := by
  intro bound member
  obtain ⟨condition, member, inside⟩ := List.mem_flatMap.mp member
  have sound := forM_eq_ok.mp valid condition member
  cases condition with
  | numeric field comparison =>
      change Condition.validateComparison field comparison = .ok () at sound
      have named : field.name.isEmpty = false := by
        rw [← Bool.not_eq_true]
        intro unnamed
        simp only [Condition.validateComparison, unnamed, if_true] at sound
        cases sound
      by_contra infinite
      rw [Bool.not_eq_true] at infinite
      exact (Condition.judges_comparison named comparison).complete (.notFinite inside infinite)
        sound
  | category kind values => cases inside
  | tags anyOf allOf noneOf => cases inside
  | symbols admitted refused => cases inside

variable [Printed α]

/-- A set that passes validation is read back from its text exactly if it is
regular.  Of the text of a finite bound it is assumed that it reads back. -/
theorem parse_text_iff_isRegular {set : ConditionSet α} (valid : set.validate = .ok ())
    (printer : ∀ bound ∈ set.bounds, Arithmetic.isFinite bound = true → ReadsBack bound) :
    parse set.text = .ok set ↔ ∀ condition ∈ set.conditions, condition.IsRegular := by
  constructor
  · exact isRegular_of_parse
  · intro regular
    have finite := isFinite_of_validate valid
    exact parse_text_of_readsBack regular fun bound member =>
      printer bound member (finite bound member)

/-- A field of an unknown name and a market with a blank inside come back, an empty
market does not. -/
theorem parse_text_iff_isRegular_handmade :
    let spaced : ConditionSet Float :=
      ⟨.any, [.numeric (.other "momentum") (.atLeast 60.0), .category .market ["US", "Hong Kong"]]⟩
    let blank : ConditionSet Float := .all [.category .market ["US", ""]]
    spaced.validate = .ok () ∧ parse spaced.text = .ok spaced ∧
      blank.validate = .ok () ∧ parse blank.text ≠ .ok blank := by
  intro spaced blank
  have spacedValid : spaced.validate = .ok () := eq_ok_of_toBool (by decide +kernel)
  have blankValid : blank.validate = .ok () := eq_ok_of_toBool (by decide +kernel)
  have back : ReadsBack (60.0 : Float) :=
    readsBack_of_digits "60".toList (by decide) (by decide +kernel) (by decide +kernel)
  refine ⟨spacedValid, (parse_text_iff_isRegular spacedValid ?_).mpr ?_, blankValid,
    fun readBack => ?_⟩
  · intro bound member _
    rw [List.mem_singleton.mp member]
    exact back
  · have usValue : IsValue "US".toList := IsName.isValue (by decide)
    have hongKong : IsValue "Hong Kong".toList := by
      refine ⟨by decide, List.all_eq_true.mp (by decide), ?_, ?_⟩
      · rintro c ⟨⟩
        decide
      · rintro c ⟨⟩
        decide
    intro condition member
    simp only [spaced, List.mem_cons, List.not_mem_nil, or_false] at member
    rcases member with rfl | rfl
    · exact (by decide +kernel : OwnName Field.ofName Field.name (.other "momentum"))
    · refine ⟨by decide +kernel, by simp, ?_⟩
      intro value member
      simp only [List.mem_cons, List.not_mem_nil, or_false] at member
      rcases member with rfl | rfl
      · exact usValue
      · exact hongKong
  · have regular := (parse_text_iff_isRegular blankValid nofun).mp readBack _
      (List.mem_singleton_self _)
    have isValue : IsValue "".toList := regular.2.2 "" (by simp)
    exact isValue.nonempty rfl

/-- Validation passes a blank beside a value and a symbol with a comma inside.  The
text of the first is refused, and that of the second is read as two symbols. -/
theorem separators_lost_in_text :
    let blank : ConditionSet Float := .all [.category .market ["US", ""]]
    let joined : ConditionSet Float := .all [.symbols ["BHP, CBA"] []]
    blank.validate = .ok () ∧
      parse (α := Float) blank.text = .error ⟨"expected value, found ')'", 15⟩ ∧
      joined.validate = .ok () ∧
      parse (α := Float) joined.text = .ok (.all [.symbols ["BHP", "CBA"] []]) ∧
      parse joined.text ≠ .ok joined := by
  intro blank joined
  refine ⟨eq_ok_of_toBool (by decide +kernel), by decide +kernel,
    eq_ok_of_toBool (by decide +kernel), by decide +kernel, by decide +kernel⟩

end ConditionSet

end DailySignals
