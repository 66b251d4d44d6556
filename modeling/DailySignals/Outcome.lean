/-!
# Computations that may fail

Laws of `Except`: what a computation that succeeded must have gone through, and
what a chain of checks needs in order to succeed.
-/

set_option autoImplicit false

namespace DailySignals

variable {ε δ β γ : Type}

theorem bind_eq_ok {first : Except ε β} {next : β → Except ε γ} {result : γ} :
    (first >>= next) = .ok result ↔ ∃ value, first = .ok value ∧ next value = .ok result := by
  cases first with
  | error fault => simp [bind, Except.bind]
  | ok value => simp [bind, Except.bind]

@[simp] theorem pure_eq_ok {value result : β} :
    (pure value : Except ε β) = .ok result ↔ value = result := by
  simp [pure, Except.pure]

@[simp] theorem throw_eq_ok {fault : ε} {result : β} :
    (throw fault : Except ε β) = .ok result ↔ False := by
  simp [throw, throwThe, MonadExceptOf.throw]

theorem mapError_eq_ok {first : Except ε β} {translate : ε → δ} {result : β} :
    first.mapError translate = .ok result ↔ first = .ok result := by
  cases first with
  | error fault =>
      constructor
      · intro impossible
        cases impossible
      · intro impossible
        cases impossible
  | ok value =>
      constructor
      · intro same
        exact congrArg Except.ok (Except.ok.inj same)
      · intro same
        exact congrArg Except.ok (Except.ok.inj same)

theorem bind_eq_error {first : Except ε β} {next : β → Except ε γ} {fault : ε} :
    (first >>= next) = .error fault ↔
      first = .error fault ∨ ∃ value, first = .ok value ∧ next value = .error fault := by
  cases first with
  | error other => simp [bind, Except.bind]
  | ok value => simp [bind, Except.bind]

theorem bind_of_error {first : Except ε β} {next : β → Except ε γ} {fault : ε}
    (failed : first = .error fault) : (first >>= next) = .error fault :=
  bind_eq_error.mpr (.inl failed)

theorem bind_of_ok {first : Except ε β} {next : β → Except ε γ} {value : β}
    (success : first = .ok value) : (first >>= next) = next value := by
  rw [success]
  rfl

theorem mapError_eq_error {first : Except ε β} {translate : ε → δ} {fault : δ} :
    first.mapError translate = .error fault ↔
      ∃ cause, first = .error cause ∧ fault = translate cause := by
  cases first with
  | error other =>
      constructor
      · intro same
        exact ⟨other, rfl, (Except.error.inj same).symm⟩
      · rintro ⟨_, ⟨⟩, rfl⟩
        rfl
  | ok value =>
      constructor
      · intro impossible
        cases impossible
      · rintro ⟨_, impossible, _⟩
        cases impossible

/-- A check that did not fail has passed. -/
theorem eq_ok_of_toBool {check : Except ε Unit} (passed : check.toBool = true) :
    check = .ok () := by
  cases check with
  | error fault => cases passed
  | ok value => rfl

/-- A check in front of a computation lets through what it does not refuse. -/
theorem guard_eq_ok {refused : Prop} [Decidable refused] {fault : ε} {next : Except ε β}
    {result : β} :
    (do if refused then throw fault
        next) = .ok result ↔ ¬ refused ∧ next = .ok result := by
  by_cases refusal : refused
  · simp [refusal, bind_eq_ok]
  · simp [refusal]

/-- A check at the end of a computation. -/
theorem refusal_eq_ok {refused : Prop} [Decidable refused] {fault : ε} :
    (if refused then throw fault else pure () : Except ε Unit) = .ok () ↔ ¬ refused := by
  by_cases refusal : refused
  · simp [refusal]
  · simp [refusal]

/-- A check that lets through what fits. -/
theorem admission_eq_ok {fits : Prop} [Decidable fits] {fault : ε} :
    (if fits then pure () else throw fault : Except ε Unit) = .ok () ↔ fits := by
  by_cases fit : fits
  · simp [fit]
  · simp [fit]

/-- A check that stands in front of a computation as one of its steps. -/
theorem check_bind_eq_ok {check : Except ε Unit} {next : Unit → Except ε β} {result : β} :
    (check >>= next) = .ok result ↔ check = .ok () ∧ next () = .ok result := by
  rw [bind_eq_ok]
  constructor
  · rintro ⟨⟨⟩, passed, found⟩
    exact ⟨passed, found⟩
  · rintro ⟨passed, found⟩
    exact ⟨(), passed, found⟩

@[simp] theorem exists_eq_ok_unit {check : Except ε Unit} :
    (∃ value, check = .ok value) ↔ check = .ok () :=
  ⟨fun ⟨_, passed⟩ => passed, fun passed => ⟨(), passed⟩⟩

theorem eq_ok_of_toOption {computed : Except ε β} {result : β}
    (found : computed.toOption = some result) : computed = .ok result := by
  cases computed with
  | error fault => cases found
  | ok value => exact congrArg Except.ok (Option.some.inj found)

theorem forM_eq_ok {check : β → Except ε Unit} {items : List β} :
    items.forM check = .ok () ↔ ∀ item ∈ items, check item = .ok () := by
  induction items with
  | nil => simp
  | cons item rest ih =>
      rw [List.forM, bind_eq_ok]
      constructor
      · rintro ⟨_, head, tail⟩ other member
        rcases List.mem_cons.mp member with rfl | member
        · exact head
        · exact ih.mp tail other member
      · intro all
        exact ⟨(), all item (by simp),
          ih.mpr fun other member => all other (List.mem_cons_of_mem _ member)⟩

/-- A loop that only asks whether each of its steps succeeds. -/
theorem forIn_eq_ok {step : β → Except ε γ} {items : List β} :
    (forIn items PUnit.unit fun item _ => do
        let _ ← step item
        pure (ForInStep.yield PUnit.unit)) = .ok PUnit.unit ↔
      ∀ item ∈ items, ∃ value, step item = .ok value := by
  induction items with
  | nil => simp
  | cons item rest ih =>
      rw [List.forIn_cons, bind_assoc, bind_eq_ok, List.forall_mem_cons, ← ih]
      constructor
      · rintro ⟨value, head, tail⟩
        exact ⟨⟨value, head⟩, tail⟩
      · rintro ⟨⟨value, head⟩, tail⟩
        exact ⟨value, head, tail⟩

/-- A filter whose questions are all answered keeps what a plain filter keeps. -/
theorem filterM_eq_ok {check : β → Except ε Bool} {answer : β → Bool} {items : List β}
    (answers : ∀ item ∈ items, check item = .ok (answer item)) :
    items.filterM check = .ok (items.filter answer) := by
  have gathered : ∀ found, items.filterAuxM check found =
      .ok ((items.filter answer).reverse ++ found) := by
    induction items with
    | nil =>
        intro found
        rfl
    | cons item rest ih =>
        intro found
        have head := answers item (by simp)
        have tail := ih fun other member => answers other (List.mem_cons_of_mem _ member)
        rw [List.filterAuxM, head]
        change rest.filterAuxM check (cond (answer item) (item :: found) found) = _
        rw [tail]
        cases chosen : answer item with
        | true => simp [chosen]
        | false => simp [chosen]
  rw [List.filterM, gathered]
  simp [bind, Except.bind, pure, Except.pure]

/-! ## Ways to fail -/

/-- A computation that can fail in certain ways only. -/
def FailsOnly (ways : ε → Prop) (computed : Except ε β) : Prop :=
  ∀ fault, computed = .error fault → ways fault

namespace FailsOnly

variable {ways wider : ε → Prop}

theorem of_ok {computed : Except ε β} {value : β} (success : computed = .ok value) :
    FailsOnly ways computed := by
  intro fault failed
  rw [success] at failed
  cases failed

theorem of_error {computed : Except ε β} {fault : ε} (failed : computed = .error fault)
    (allowed : ways fault) : FailsOnly ways computed := by
  intro other failedToo
  rw [failed] at failedToo
  cases failedToo
  exact allowed

theorem mono {computed : Except ε β} (fails : FailsOnly ways computed)
    (widen : ∀ fault, ways fault → wider fault) : FailsOnly wider computed :=
  fun fault failed => widen fault (fails fault failed)

theorem bind {first : Except ε β} {next : β → Except ε γ} (head : FailsOnly ways first)
    (tail : ∀ value, first = .ok value → FailsOnly ways (next value)) :
    FailsOnly ways (first >>= next) := by
  intro fault failed
  rcases bind_eq_error.mp failed with failed | ⟨value, success, failed⟩
  · exact head fault failed
  · exact tail value success fault failed

theorem mapError {first : Except δ β} {translate : δ → ε}
    (allowed : ∀ cause, ways (translate cause)) : FailsOnly ways (first.mapError translate) := by
  intro fault failed
  obtain ⟨cause, _, rfl⟩ := mapError_eq_error.mp failed
  exact allowed cause

end FailsOnly

/-- A check that fails exactly if something speaks against it, and then for such
a reason. -/
structure Judges (reasons : ε → Prop) (check : Except ε Unit) : Prop where
  sound : FailsOnly reasons check
  complete {reason : ε} : reasons reason → check ≠ .ok ()

namespace Judges

theorem of_ok {reasons : ε → Prop} {check : Except ε Unit} (passed : check = .ok ())
    (nothing : ¬ ∃ reason, reasons reason) : Judges reasons check where
  sound := .of_ok passed
  complete against := absurd ⟨_, against⟩ nothing

theorem of_error {reasons : ε → Prop} {check : Except ε Unit} {fault : ε}
    (failed : check = .error fault) (reason : reasons fault) : Judges reasons check where
  sound := .of_error failed reason
  complete _ := by
    rw [failed]
    nofun

theorem fails_iff {reasons : ε → Prop} {check : Except ε Unit} (judges : Judges reasons check) :
    (∃ fault, check = .error fault) ↔ ∃ reason, reasons reason := by
  constructor
  · rintro ⟨fault, failed⟩
    exact ⟨fault, judges.sound fault failed⟩
  · rintro ⟨reason, against⟩
    cases result : check with
    | error fault => exact ⟨fault, rfl⟩
    | ok value => exact absurd result (judges.complete against)

theorem forM {reasons : β → ε → Prop} {check : β → Except ε Unit} {items : List β}
    (each : ∀ item ∈ items, Judges (reasons item) (check item)) :
    Judges (fun reason => ∃ item ∈ items, reasons item reason) (items.forM check) where
  sound := by
    induction items with
    | nil => exact .of_ok rfl
    | cons item others ih =>
        have head := (each item List.mem_cons_self).sound
        have tail := ih fun other member => each other (List.mem_cons_of_mem _ member)
        refine FailsOnly.bind ?_ fun _ _ => ?_
        · exact head.mono fun fault reason => ⟨item, List.mem_cons_self, reason⟩
        · rintro fault failed
          obtain ⟨other, member, reason⟩ := tail fault failed
          exact ⟨other, List.mem_cons_of_mem _ member, reason⟩
  complete := by
    rintro reason ⟨item, member, against⟩ passed
    exact (each item member).complete against (forM_eq_ok.mp passed item member)

end Judges

end DailySignals
