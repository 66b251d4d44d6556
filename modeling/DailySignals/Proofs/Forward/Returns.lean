import DailySignals.Proofs.Forward.Schedule
import DailySignals.Proofs.NumberOrder
import DailySignals.Proofs.Scoring.Inert

/-!
# The returns after a signal

An event lists one return for each horizon that is asked for and that leads to a
day.  Two closes stand in a return: the one it is measured to has to lie above
zero, the one it is measured from must not lie at zero or below.  Of doubles these
are two conditions, since not-a-number lies neither way.  And a horizon leads to the
place that is reached by adding it, as long as the sum has 64 bits.
-/

set_option autoImplicit false

namespace DailySignals

namespace ForwardStudy

/-! ## The horizons of a study -/

/-- A sum that has 64 bits is the place itself. -/
theorem placeAfter_of_lt {index horizon : Nat} (fits : index + horizon < 2 ^ 64) :
    placeAfter index horizon = index + horizon :=
  Nat.mod_eq_of_lt fits

/-- The horizons that are asked for: the default ones if none are given. -/
def asked (requested : List Nat) : List Nat :=
  if requested.isEmpty then defaultHorizons else requested

theorem mem_effectiveHorizons {requested : List Nat} {horizon : Nat} :
    horizon ∈ effectiveHorizons requested ↔ 0 < horizon ∧ horizon ∈ asked requested := by
  rw [effectiveHorizons, List.mem_eraseDups, List.mem_mergeSort, List.mem_filter,
    decide_eq_true_eq, and_comm]
  rfl

theorem increasing_eraseDups (numbers : List Nat) (ascending : numbers.Pairwise (· ≤ ·)) :
    numbers.eraseDups.Pairwise (· < ·) := by
  match numbers with
  | [] => exact .nil
  | first :: rest =>
      obtain ⟨least, ascending⟩ := List.pairwise_cons.mp ascending
      rw [List.eraseDups_cons, List.pairwise_cons]
      constructor
      · intro other member
        obtain ⟨there, differs⟩ := List.mem_filter.mp (List.mem_eraseDups.mp member)
        have after := least other there
        have different : other ≠ first := by simpa using differs
        omega
      · exact increasing_eraseDups _ (ascending.filter _)
termination_by numbers.length
decreasing_by exact Nat.lt_succ_of_le (List.length_filter_le _ _)

theorem effectiveHorizons_increasing (requested : List Nat) :
    (effectiveHorizons requested).Pairwise (· < ·) := by
  apply increasing_eraseDups
  have sorted : (((asked requested).filter (0 < ·)).mergeSort (· ≤ ·)).Pairwise
      fun first second => decide (first ≤ second) = true := by
    apply List.pairwise_mergeSort
    · intro first second third before after
      rw [decide_eq_true_eq] at before after ⊢
      exact Nat.le_trans before after
    · intro first second
      simpa using Nat.le_total first second
  exact sorted.imp of_decide_eq_true

variable {α : Type} [Arithmetic α]

/-! ## The returns of a day -/

/-- The return from the day at a place to the one that a horizon leads to. -/
def returnTo (days : List (Snapshot α)) (index : Nat) (base : Snapshot α) (horizon : Nat) :
    Option α :=
  if base.close ≤ 0 then none
  else
    match days[placeAfter index horizon]? with
    | none => none
    | some target =>
        if 0 < target.close then some (target.close / base.close - 1) else none

/-- The day at a place gives a return of a value. -/
def ReturnAt (days : List (Snapshot α)) (base : Snapshot α) (place : Nat) (value : α) : Prop :=
  ∃ target, days[place]? = some target ∧ 0 < target.close ∧
    value = target.close / base.close - 1

theorem ReturnAt.inside {days : List (Snapshot α)} {base : Snapshot α} {place : Nat} {value : α}
    (reached : ReturnAt days base place value) : place < days.length := by
  obtain ⟨_, there, _⟩ := reached
  exact (List.getElem?_eq_some_iff.mp there).1

theorem returnTo_eq_some {days : List (Snapshot α)} {index horizon : Nat} {base : Snapshot α}
    {value : α} : returnTo days index base horizon = some value ↔
      ¬ base.close ≤ 0 ∧ ReturnAt days base (placeAfter index horizon) value := by
  unfold returnTo ReturnAt
  by_cases low : base.close ≤ 0
  · simp [low]
  · rw [if_neg low]
    cases days[placeAfter index horizon]? with
    | none => simp
    | some target =>
        by_cases above : 0 < target.close
        · simp [low, above, eq_comm]
        · simp [above]

theorem returnsAfter_eq (horizons : List Nat) (days : List (Snapshot α)) (index : Nat)
    (base : Snapshot α) : returnsAfter horizons days index base =
      horizons.filterMap fun horizon =>
        (returnTo days index base horizon).map fun value => (horizon, value) := by
  unfold returnsAfter returnTo
  by_cases low : base.close ≤ 0
  · simp [low]
  · simp only [low, if_false]
    apply List.filterMap_congr
    intro horizon _
    cases days[placeAfter index horizon]? with
    | none => rfl
    | some target =>
        by_cases above : 0 < target.close
        · simp [above]
        · simp [above]

theorem mem_returnsAfter {horizons : List Nat} {days : List (Snapshot α)} {index : Nat}
    {base : Snapshot α} {horizon : Nat} {value : α} :
    (horizon, value) ∈ returnsAfter horizons days index base ↔
      horizon ∈ horizons ∧ returnTo days index base horizon = some value := by
  rw [returnsAfter_eq, List.mem_filterMap]
  constructor
  · rintro ⟨other, member, found⟩
    obtain ⟨_, measured, same⟩ := Option.map_eq_some_iff.mp found
    cases same
    exact ⟨member, measured⟩
  · rintro ⟨member, measured⟩
    exact ⟨horizon, member, by rw [measured, Option.map_some]⟩

theorem lookup_returnsAfter (horizons : List Nat) (days : List (Snapshot α)) (index : Nat)
    (base : Snapshot α) (horizon : Nat) :
    (returnsAfter horizons days index base).lookup horizon =
      if horizon ∈ horizons then returnTo days index base horizon else none := by
  rw [returnsAfter_eq]
  induction horizons with
  | nil => rfl
  | cons first rest ih =>
      by_cases same : horizon = first
      · subst same
        cases measured : returnTo days index base horizon with
        | none =>
            rw [List.filterMap_cons_none (by rw [measured]; rfl), ih, measured, ite_self, ite_self]
        | some value =>
            rw [List.filterMap_cons_some (by rw [measured]; rfl), List.lookup_cons_self,
              if_pos List.mem_cons_self]
      · have differs : (horizon == first) = false := beq_eq_false_iff_ne.mpr same
        simp only [List.mem_cons, same, false_or]
        cases measured : returnTo days index base first with
        | none => rw [List.filterMap_cons_none (by rw [measured]; rfl), ih]
        | some value =>
            rw [List.filterMap_cons_some (by rw [measured]; rfl), List.lookup_cons, differs]
            exact ih

theorem returnsAfter_increasing {horizons : List Nat} (increasing : horizons.Pairwise (· < ·))
    (days : List (Snapshot α)) (index : Nat) (base : Snapshot α) :
    (returnsAfter horizons days index base).Pairwise fun first second => first.1 < second.1 := by
  rw [returnsAfter_eq, List.pairwise_filterMap]
  apply increasing.imp
  intro first second before entry found other found'
  obtain ⟨_, _, rfl⟩ := Option.map_eq_some_iff.mp found
  obtain ⟨_, _, rfl⟩ := Option.map_eq_some_iff.mp found'
  exact before

/-! ## The returns of an event -/

variable {strategy : Strategy α} {registry : Registry α}

/-- What the returns of an event are, by the place of its day among all days. -/
def ReturnsOf (horizons : List Nat) (event : ForwardEvent α) (days : List (Snapshot α))
    (index : Nat) (day : Snapshot α) : Prop :=
  event.returns = if event.triggered then returnsAfter horizons days index day else []

theorem ReturnsOf.increasing {horizons : List Nat} {event : ForwardEvent α}
    {days : List (Snapshot α)} {index : Nat} {day : Snapshot α}
    (returns : ReturnsOf horizons event days index day) (increasing : horizons.Pairwise (· < ·)) :
    event.returns.Pairwise fun first second => first.1 < second.1 := by
  rw [returns]
  cases event.triggered with
  | false => exact .nil
  | true => exact returnsAfter_increasing increasing days index day

theorem returnsOf_event {horizons : List Nat} {days : List (Snapshot α)} {index : Nat}
    {day : Snapshot α} {found : ForwardEvent α}
    (made : event strategy registry horizons days index day = .ok found) :
    ReturnsOf horizons found days index day := by
  obtain ⟨_, _, same⟩ := bind_eq_ok.mp made
  cases same
  rfl

theorem returnsOf_eventsFrom {horizons : List Nat} {days following : List (Snapshot α)}
    {start : Nat} {events : List (ForwardEvent α)}
    (eventful : eventsFrom strategy registry horizons days start following = .ok events)
    {index : Nat} {event : ForwardEvent α} {day : Snapshot α}
    (there : events[index]? = some event) (found : following[index]? = some day) :
    ReturnsOf horizons event days (start + index) day := by
  induction following generalizing start events index with
  | nil => cases found
  | cons first rest ih =>
      obtain ⟨made, madeFirst, further⟩ := bind_eq_ok.mp eventful
      obtain ⟨others, onward, same⟩ := bind_eq_ok.mp further
      cases same
      cases index with
      | zero =>
          cases there
          cases found
          exact returnsOf_event madeFirst
      | succ index =>
          have later := ih onward there found
          rw [Nat.add_right_comm] at later
          exact later

/-- An event of a day has a return exactly for the horizons that are asked for and lead,
in some way, to a positive close, as long as a condition is met. -/
def MeasuredIf (condition : Prop) (leads : Nat → Nat) (requested : List Nat)
    (days : List (Snapshot α)) (day : Snapshot α) (event : ForwardEvent α) : Prop :=
  ∀ horizon value, (horizon, value) ∈ event.returns ↔
    event.triggered = true ∧ condition ∧ 0 < horizon ∧ horizon ∈ asked requested ∧
      ReturnAt days day (leads horizon) value

section Run

variable {history : List (Snapshot α)} {requested : List Nat} {study : ForwardStudy α}
  {index : Nat} {event : ForwardEvent α} {day : Snapshot α}

theorem eventOf_run (success : run strategy history requested registry = .ok study) :
    List.Forall₂ (EventOf strategy registry) study.events (studyDays history) := by
  obtain ⟨_, events, trades, eventful, _, rfl⟩ := run_eq_ok.mp success
  exact eventsOf_days eventful

theorem returnsOf_run (success : run strategy history requested registry = .ok study)
    (there : study.events[index]? = some event) (found : (studyDays history)[index]? = some day) :
    ReturnsOf (effectiveHorizons requested) event (studyDays history) index day := by
  obtain ⟨_, events, trades, eventful, _, rfl⟩ := run_eq_ok.mp success
  have returns := returnsOf_eventsFrom eventful there found
  rw [Nat.zero_add] at returns
  exact returns

theorem measured_run (success : run strategy history requested registry = .ok study)
    (there : study.events[index]? = some event) (found : (studyDays history)[index]? = some day) :
    MeasuredIf (¬ day.close ≤ 0) (placeAfter index) requested (studyDays history) day event := by
  intro horizon value
  rw [returnsOf_run success there found]
  cases event.triggered with
  | false => simp
  | true =>
      rw [if_pos rfl, mem_returnsAfter, mem_effectiveHorizons, returnTo_eq_some]
      constructor
      · rintro ⟨⟨positive, asked⟩, based, reached⟩
        exact ⟨rfl, based, positive, asked, reached⟩
      · rintro ⟨_, based, positive, asked, reached⟩
        exact ⟨⟨positive, asked⟩, based, reached⟩

/-- A day with a signal has a triggered event. -/
theorem exists_triggered (success : run strategy history requested registry = .ok study)
    (found : (studyDays history)[index]? = some day)
    (enters : strategy.entrySignal registry day = .ok true) :
    ∃ event, study.events[index]? = some event ∧ event.close = day.close ∧
      event.triggered = true := by
  obtain ⟨sameLength, each⟩ := List.forall₂_iff_get.mp (eventOf_run success)
  obtain ⟨inside, dayEq⟩ := List.getElem?_eq_some_iff.mp found
  have there : index < study.events.length := by omega
  obtain ⟨_, sameClose, signalled⟩ := each index there inside
  change study.events[index].close = (studyDays history)[index].close at sameClose
  change strategy.entrySignal registry (studyDays history)[index] = _ at signalled
  rw [dayEq] at sameClose signalled
  exact ⟨study.events[index], List.getElem?_eq_getElem there, sameClose,
    Except.ok.inj (signalled.symm.trans enters)⟩

end Run

omit [Arithmetic α] in
theorem length_studyDays_le (history : List (Snapshot α)) :
    (studyDays history).length ≤ history.length := by
  rw [studyDays, Snapshot.inDateOrder, List.length_mergeSort]
  exact List.length_filter_le _ _

omit [Arithmetic α] in
theorem getElem?_studyDays {history : List (Snapshot α)} (ordered : studyDays history = history)
    {index : Nat} {day : Snapshot α} (there : history[index]? = some day) :
    (studyDays history)[index]? = some day := by
  rw [ordered]
  exact there

/-- Days that lie within the places of 64 bits have returns between positive closes, at
the places that horizons lead to, exactly if no return starts from a close that is not a
number and none is of a horizon that wraps around. -/
theorem measured_above_iff {requested : List Nat} {days : List (Snapshot Float)} {index : Nat}
    {day : Snapshot Float} {event : ForwardEvent Float} (fits : days.length ≤ 2 ^ 64)
    (measured : MeasuredIf (0 < day.close ∨ day.close.isNaN = true) (placeAfter index) requested
      days day event) :
    MeasuredIf (0 < day.close) (index + ·) requested days day event ↔
      (day.close.isNaN = true → event.returns = []) ∧
        ∀ horizon value, (horizon, value) ∈ event.returns → index + horizon < 2 ^ 64 := by
  constructor
  · intro positive
    constructor
    · intro undefined
      rw [List.eq_nil_iff_forall_not_mem]
      rintro ⟨horizon, value⟩ listed
      obtain ⟨_, above, _⟩ := (positive horizon value).mp listed
      exact LawfulOrder.float_not_lt_of_isNaN undefined above
    · intro horizon value listed
      obtain ⟨_, _, _, _, reached⟩ := (positive horizon value).mp listed
      exact Nat.lt_of_lt_of_le reached.inside fits
  · rintro ⟨none, straight⟩ horizon value
    constructor
    · intro listed
      obtain ⟨triggered, above | undefined, positive, asked, reached⟩ :=
        (measured horizon value).mp listed
      · rw [placeAfter_of_lt (straight horizon value listed)] at reached
        exact ⟨triggered, above, positive, asked, reached⟩
      · rw [none undefined] at listed
        cases listed
    · rintro ⟨triggered, above, positive, asked, reached⟩
      have reached : ReturnAt days day (index + horizon) value := reached
      rw [← placeAfter_of_lt (Nat.lt_of_lt_of_le reached.inside fits)] at reached
      exact (measured horizon value).mpr ⟨triggered, .inl above, positive, asked, reached⟩

/-- A study has for every day the returns to positive closes at the horizons that are
asked for: from positive closes and from those that are not a number, and at the places
that sums of 64 bits come to.  So its returns are those between positive closes that lie
a horizon apart exactly if no close that is not a number has any, and no horizon wraps
around to one. -/
theorem run_returns_iff (strategy : Strategy Float) (valid : strategy.validate = .ok ())
    (history : List (Snapshot Float)) (requested : List Nat) (registry : Registry Float) :
    ∃ study, run strategy history requested registry = .ok study ∧
      DateOrdered Snapshot.date (studyDays history) ∧
      (∀ date, rowsOn Snapshot.date date (studyDays history) =
        rowsOn Snapshot.date date (history.filter (·.success))) ∧
      List.Forall₂ (EventOf strategy registry) study.events (studyDays history) ∧
      ∀ index event day, study.events[index]? = some event →
        (studyDays history)[index]? = some day →
        (event.returns.Pairwise fun first second => first.1 < second.1) ∧
          MeasuredIf (0 < day.close ∨ day.close.isNaN = true)
            (fun horizon => (index + horizon) % 2 ^ 64) requested (studyDays history) day event ∧
          (history.length ≤ 2 ^ 64 →
            (MeasuredIf (0 < day.close) (index + ·) requested (studyDays history) day event ↔
              (day.close.isNaN = true → event.returns = []) ∧
                ∀ horizon value, (horizon, value) ∈ event.returns →
                  index + horizon < 2 ^ 64)) := by
  obtain ⟨study, success⟩ := run_complete valid history requested registry
  refine ⟨study, success, Snapshot.dateOrdered_inDateOrder _,
    fun date => Snapshot.rowsOn_inDateOrder date _, eventOf_run success, ?_⟩
  intro index event day there found
  have measured : MeasuredIf (0 < day.close ∨ day.close.isNaN = true) (placeAfter index)
      requested (studyDays history) day event := by
    intro horizon value
    rw [measured_run success there found horizon value]
    exact and_congr_right fun _ => and_congr_left fun _ => LawfulOrder.float_not_le_zero_iff
  refine ⟨(returnsOf_run success there found).increasing
    (effectiveHorizons_increasing requested), measured, ?_⟩
  intro fits
  exact measured_above_iff ((length_studyDays_le history).trans fits) measured

end ForwardStudy

namespace Sample

/-- A day to enter on. -/
def entryDay : Snapshot Float :=
  { scoredRow 80 with date := firstDay }

/-- A day to enter on that has no price. -/
def unpricedDay : Snapshot Float :=
  { scoredRow 80 with close := 0 / 0 }

/-- A day with a price and a low score. -/
def quietDay : Snapshot Float :=
  { scoredRow 10 with date := thirdDay, close := 110 }

def unpriced : List (Snapshot Float) :=
  [entryDay, unpricedDay, quietDay]

theorem studyDays_unpriced : ForwardStudy.studyDays unpriced = unpriced :=
  mergeSort_of_dateOrdered Snapshot.date (by decide)

/-- A later day to enter on, at a higher price. -/
def dearerDay : Snapshot Float :=
  { scoredRow 80 with close := 110 }

def pricedTwice : List (Snapshot Float) :=
  [entryDay, dearerDay]

theorem studyDays_pricedTwice : ForwardStudy.studyDays pricedTwice = pricedTwice :=
  mergeSort_of_dateOrdered Snapshot.date (by decide)

end Sample

namespace ForwardStudy

/-- The first day has a return to the third one and none to the day without a
price, just as it should. -/
theorem run_returns_iff_unpriced :
    Sample.graded.validate = .ok () ∧ Sample.unpriced.length ≤ 2 ^ 64 ∧ ∃ study event,
      run Sample.graded Sample.unpriced [1, 2] Registry.builtin = .ok study ∧
        study.events[0]? = some event ∧ (∃ value, (2, value) ∈ event.returns) ∧
        (∀ value, (1, value) ∉ event.returns) ∧
        MeasuredIf (0 < Sample.entryDay.close) (0 + ·) [1, 2] (studyDays Sample.unpriced)
          Sample.entryDay event := by
  obtain ⟨study, success, _, _, _, measured⟩ := run_returns_iff Sample.graded
    Sample.graded_valid Sample.unpriced [1, 2] Registry.builtin
  have first : (studyDays Sample.unpriced)[0]? = some Sample.entryDay :=
    getElem?_studyDays Sample.studyDays_unpriced rfl
  have second : (studyDays Sample.unpriced)[0 + 1]? = some Sample.unpricedDay :=
    getElem?_studyDays Sample.studyDays_unpriced rfl
  have third : (studyDays Sample.unpriced)[0 + 2]? = some Sample.quietDay :=
    getElem?_studyDays Sample.studyDays_unpriced rfl
  obtain ⟨event, there, _, triggered⟩ :=
    exists_triggered success first (eq_ok_of_toOption (by decide +kernel))
  obtain ⟨_, returns, straight⟩ := measured 0 event _ there first
  have listed := (returns 2 _).mpr ⟨triggered, .inl (by decide +kernel), by decide, by decide,
    _, third, by decide +kernel, rfl⟩
  have fits : Sample.unpriced.length ≤ 2 ^ 64 := by decide
  refine ⟨Sample.graded_valid, fits, study, event, success, there, ⟨_, listed⟩, ?_,
    (straight fits).mpr ⟨?_, ?_⟩⟩
  · intro value early
    obtain ⟨_, _, _, _, target, reached, above, _⟩ := (returns 1 value).mp early
    cases second.symm.trans reached
    exact absurd above (by decide +kernel)
  · intro undefined
    exact absurd undefined (by decide +kernel)
  · intro horizon value given
    obtain ⟨_, _, _, member, _⟩ := (returns horizon value).mp given
    have near : horizon = 1 ∨ horizon = 2 := by simpa [asked] using member
    omega

/-- The day without a price has a return all the same. -/
theorem unpriced_day_measured :
    Sample.graded.validate = .ok () ∧ ∃ study event,
      run Sample.graded Sample.unpriced [1] Registry.builtin = .ok study ∧
        study.events[1]? = some event ∧ event.triggered = true ∧ ¬ 0 < event.close ∧
        ∃ value, (1, value) ∈ event.returns := by
  obtain ⟨study, success⟩ := run_complete Sample.graded_valid Sample.unpriced [1]
    Registry.builtin
  have second : (studyDays Sample.unpriced)[1]? = some Sample.unpricedDay :=
    getElem?_studyDays Sample.studyDays_unpriced rfl
  have third : (studyDays Sample.unpriced)[1 + 1]? = some Sample.quietDay :=
    getElem?_studyDays Sample.studyDays_unpriced rfl
  obtain ⟨event, there, sameClose, triggered⟩ :=
    exists_triggered success second (eq_ok_of_toOption (by decide +kernel))
  have listed := (measured_run success there second 1 _).mpr ⟨triggered, by decide +kernel,
    by decide, by decide, _, third, by decide +kernel, rfl⟩
  refine ⟨Sample.graded_valid, study, event, success, there, triggered, ?_, _, listed⟩
  rw [sameClose]
  decide +kernel

/-- The greatest horizon wraps around: the second day has a return to the first one,
and no day lies that far behind it. -/
theorem wrapped_horizon_measured :
    Sample.graded.validate = .ok () ∧ ∃ study event,
      run Sample.graded Sample.pricedTwice [2 ^ 64 - 1] Registry.builtin = .ok study ∧
        study.events[1]? = some event ∧
        (studyDays Sample.pricedTwice)[1 + (2 ^ 64 - 1)]? = none ∧
        ∃ value, (2 ^ 64 - 1, value) ∈ event.returns := by
  obtain ⟨study, success⟩ := run_complete Sample.graded_valid Sample.pricedTwice [2 ^ 64 - 1]
    Registry.builtin
  have first : (studyDays Sample.pricedTwice)[placeAfter 1 (2 ^ 64 - 1)]? =
      some Sample.entryDay :=
    getElem?_studyDays Sample.studyDays_pricedTwice rfl
  have second : (studyDays Sample.pricedTwice)[1]? = some Sample.dearerDay :=
    getElem?_studyDays Sample.studyDays_pricedTwice rfl
  obtain ⟨event, there, _, triggered⟩ :=
    exists_triggered success second (eq_ok_of_toOption (by decide +kernel))
  have listed := (measured_run success there second (2 ^ 64 - 1) _).mpr ⟨triggered,
    by decide +kernel, by decide, by decide, _, first, by decide +kernel, rfl⟩
  refine ⟨Sample.graded_valid, study, event, success, there, ?_, _, listed⟩
  rw [Sample.studyDays_pricedTwice]
  exact List.getElem?_eq_none (by decide)

end ForwardStudy

end DailySignals
