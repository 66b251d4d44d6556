import DailySignals.Proofs.Forward.Returns

/-!
# The statistics of a horizon

A study sums up the returns of its events for one horizon at a time.  Whether an
event has a return for a horizon, and which, is settled by the days; the other
horizons that are asked for do not enter into it.  So the statistics of a horizon
are the same in every study that asks for it, and everything else in a study is the
same whatever is asked for.
-/

set_option autoImplicit false

namespace DailySignals

/-! ## Events and their returns -/

section Events

variable {α : Type}

namespace ForwardEvent

/-- An event has a return for a horizon. -/
def measures (event : ForwardEvent α) (horizon : Nat) : Bool :=
  event.returns.any fun entry => entry.1 == horizon

/-- An event but for its returns. -/
def bare (event : ForwardEvent α) : ForwardEvent α :=
  { event with returns := [] }

/-- Every return of an event is the one that is looked up. -/
def Keyed (event : ForwardEvent α) : Prop :=
  ∀ horizon value, (horizon, value) ∈ event.returns ↔
    event.returns.lookup horizon = some value

/-- Two events that differ in their returns at most, and in these only for horizons
that are not in both of two lists. -/
def Agrees (horizons others : List Nat) (event event' : ForwardEvent α) : Prop :=
  event.bare = event'.bare ∧ ∀ horizon ∈ horizons, horizon ∈ others →
    event.returns.lookup horizon = event'.returns.lookup horizon

theorem measures_iff {event : ForwardEvent α} {horizon : Nat} :
    event.measures horizon = true ↔ ∃ value, (horizon, value) ∈ event.returns := by
  rw [measures, List.any_eq_true]
  constructor
  · rintro ⟨⟨other, value⟩, listed, same⟩
    rw [beq_iff_eq] at same
    exact ⟨value, same ▸ listed⟩
  · rintro ⟨value, listed⟩
    exact ⟨_, listed, BEq.rfl⟩

end ForwardEvent

namespace ForwardStudy

variable {horizons others : List Nat} {events events' : List (ForwardEvent α)}

theorem samplesOf_ne_nil_iff {horizon : Nat} (keyed : ∀ event ∈ events, event.Keyed) :
    samplesOf events horizon ≠ [] ↔ ∃ event ∈ events, event.measures horizon = true := by
  constructor
  · intro sampled
    obtain ⟨value, there⟩ := List.exists_mem_of_ne_nil _ sampled
    obtain ⟨event, member, found⟩ := List.mem_filterMap.mp there
    have listed := (keyed event member horizon value).mpr found
    exact ⟨event, member, ForwardEvent.measures_iff.mpr ⟨value, listed⟩⟩
  · rintro ⟨event, member, measured⟩
    obtain ⟨value, listed⟩ := ForwardEvent.measures_iff.mp measured
    have found := (keyed event member horizon value).mp listed
    exact List.ne_nil_of_mem (List.mem_filterMap.mpr ⟨event, member, found⟩)

/-- The samples of a horizon are the returns of the events that have one. -/
theorem samplesOf_returns (horizon : Nat) (keyed : ∀ event ∈ events, event.Keyed) :
    List.Forall₂ (fun event value => (horizon, value) ∈ event.returns)
      (events.filter fun event => event.measures horizon) (samplesOf events horizon) := by
  unfold samplesOf
  induction events with
  | nil => exact .nil
  | cons first rest ih =>
      have keyedFirst := keyed first List.mem_cons_self horizon
      have onward := ih fun event member => keyed event (List.mem_cons_of_mem _ member)
      cases found : first.returns.lookup horizon with
      | none =>
          have unmeasured : first.measures horizon = false := by
            rw [← Bool.not_eq_true, ForwardEvent.measures_iff]
            rintro ⟨value, listed⟩
            rw [keyedFirst, found] at listed
            cases listed
          rw [List.filter_cons, unmeasured, List.filterMap_cons, found]
          exact onward
      | some value =>
          have listed := (keyedFirst value).mpr found
          have measured := ForwardEvent.measures_iff.mpr ⟨value, listed⟩
          rw [List.filter_cons, measured, List.filterMap_cons, found]
          exact .cons listed onward

theorem samplesOf_congr
    (agree : List.Forall₂ (ForwardEvent.Agrees horizons others) events events')
    {horizon : Nat} (member : horizon ∈ horizons) (member' : horizon ∈ others) :
    samplesOf events horizon = samplesOf events' horizon := by
  unfold samplesOf
  induction agree with
  | nil => rfl
  | cons first _ ih =>
      rw [List.filterMap_cons, List.filterMap_cons, first.2 horizon member member', ih]

theorem bare_congr (agree : List.Forall₂ (ForwardEvent.Agrees horizons others) events events') :
    events.map (·.bare) = events'.map (·.bare) := by
  induction agree with
  | nil => rfl
  | cons first _ ih => rw [List.map_cons, List.map_cons, first.1, ih]

theorem triggered_congr (same : events.map (·.bare) = events'.map (·.bare)) :
    events.map (·.triggered) = events'.map (·.triggered) := by
  have flags := congrArg (List.map (·.triggered)) same
  rw [List.map_map, List.map_map] at flags
  exact flags

end ForwardStudy

end Events

variable {α : Type} [Arithmetic α]

/-- Statistics that count values, and give their mean and the share of them that lies
above zero. -/
structure HorizonStatistics.Summarizes (statistics : HorizonStatistics α) (values : List α) :
    Prop where
  samples : statistics.samples = values.length
  average : statistics.averageReturn = Arithmetic.sum values / Arithmetic.ofNat values.length
  wins : statistics.winRate = Arithmetic.ofNat (values.filter Arithmetic.isPositive).length /
    Arithmetic.ofNat values.length

namespace ForwardStudy

theorem horizonStatistics_eq_some {events : List (ForwardEvent α)} {horizon : Nat}
    {statistics : HorizonStatistics α} :
    horizonStatistics events horizon = some statistics ↔
      samplesOf events horizon ≠ [] ∧ statistics.horizon = horizon ∧
        statistics.Summarizes (samplesOf events horizon) := by
  rw [horizonStatistics]
  cases samplesOf events horizon with
  | nil => simp
  | cons first rest =>
      constructor
      · intro found
        cases Option.some.inj found
        exact ⟨List.cons_ne_nil _ _, rfl, rfl, rfl, rfl⟩
      · rintro ⟨_, sameHorizon, samples, average, wins⟩
        cases statistics
        cases sameHorizon
        cases samples
        cases average
        cases wins
        rfl

theorem ReturnsOf.keyed {horizons : List Nat} {event : ForwardEvent α}
    {days : List (Snapshot α)} {index : Nat} {day : Snapshot α}
    (returns : ReturnsOf horizons event days index day) : event.Keyed := by
  intro horizon value
  rw [returns]
  cases event.triggered with
  | false => simp
  | true =>
      rw [if_pos rfl, mem_returnsAfter, lookup_returnsAfter]
      by_cases member : horizon ∈ horizons
      · simp [member]
      · simp [member]

/-! ## Two lists of horizons -/

variable {strategy : Strategy α} {registry : Registry α}

section Days

variable {horizons others : List Nat}

theorem event_agrees {days : List (Snapshot α)} {index : Nat} {day : Snapshot α}
    {first first' : ForwardEvent α}
    (made : event strategy registry horizons days index day = .ok first)
    (made' : event strategy registry others days index day = .ok first') :
    ForwardEvent.Agrees horizons others first first' := by
  obtain ⟨⟨entry, exitScore, triggered⟩, scored, same⟩ := bind_eq_ok.mp made
  obtain ⟨_, scored', same'⟩ := bind_eq_ok.mp made'
  cases scored.symm.trans scored'
  cases same
  cases same'
  refine ⟨rfl, ?_⟩
  intro horizon member member'
  cases triggered with
  | false => rfl
  | true =>
      simp only [if_true]
      rw [lookup_returnsAfter, lookup_returnsAfter, if_pos member, if_pos member']

theorem eventsFrom_agrees {days following : List (Snapshot α)} {index : Nat}
    {events events' : List (ForwardEvent α)}
    (eventful : eventsFrom strategy registry horizons days index following = .ok events)
    (eventful' : eventsFrom strategy registry others days index following = .ok events') :
    List.Forall₂ (ForwardEvent.Agrees horizons others) events events' := by
  induction following generalizing index events events' with
  | nil =>
      cases eventful
      cases eventful'
      exact .nil
  | cons day rest ih =>
      obtain ⟨first, made, further⟩ := bind_eq_ok.mp eventful
      obtain ⟨_, onward, same⟩ := bind_eq_ok.mp further
      obtain ⟨first', made', further'⟩ := bind_eq_ok.mp eventful'
      obtain ⟨_, onward', same'⟩ := bind_eq_ok.mp further'
      cases same
      cases same'
      exact .cons (event_agrees made made') (ih onward onward')

end Days

/-! ## Studies -/

section Run

variable {history : List (Snapshot α)} {requested others : List Nat}
  {study study' : ForwardStudy α}

theorem exists_returnsOf (success : run strategy history requested registry = .ok study)
    {event : ForwardEvent α} (member : event ∈ study.events) :
    ∃ index day, ReturnsOf (effectiveHorizons requested) event (studyDays history) index day := by
  obtain ⟨index, there⟩ := List.mem_iff_getElem?.mp member
  obtain ⟨inside, _⟩ := List.getElem?_eq_some_iff.mp there
  rw [(eventOf_run success).length_eq] at inside
  exact ⟨_, _, returnsOf_run success there (List.getElem?_eq_getElem inside)⟩

theorem keyed_run (success : run strategy history requested registry = .ok study) :
    ∀ event ∈ study.events, event.Keyed := by
  intro event member
  obtain ⟨_, _, returns⟩ := exists_returnsOf success member
  exact returns.keyed

theorem dates_of_events {events : List (ForwardEvent α)} {days : List (Snapshot α)}
    (ofDays : List.Forall₂ (EventOf strategy registry) events days) :
    events.map (·.date) = days.map (·.date) := by
  induction ofDays with
  | nil => rfl
  | cons first _ ih => rw [List.map_cons, List.map_cons, first.1, ih]

theorem dateOrdered_events (success : run strategy history requested registry = .ok study) :
    DateOrdered ForwardEvent.date study.events := by
  have ordered : DateOrdered Snapshot.date (studyDays history) :=
    Snapshot.dateOrdered_inDateOrder _
  have dates := List.pairwise_map.mpr ordered
  rw [← dates_of_events (eventOf_run success)] at dates
  exact List.pairwise_map.mp dates

theorem mem_horizons_iff (success : run strategy history requested registry = .ok study)
    {statistics : HorizonStatistics α} :
    statistics ∈ study.horizons ↔ statistics.horizon ∈ effectiveHorizons requested ∧
      samplesOf study.events statistics.horizon ≠ [] ∧
        statistics.Summarizes (samplesOf study.events statistics.horizon) := by
  obtain ⟨_, events, trades, _, _, rfl⟩ := run_eq_ok.mp success
  rw [List.mem_filterMap]
  constructor
  · rintro ⟨horizon, asked, found⟩
    obtain ⟨sampled, rfl, summarizes⟩ := horizonStatistics_eq_some.mp found
    exact ⟨asked, sampled, summarizes⟩
  · rintro ⟨asked, sampled, summarizes⟩
    exact ⟨_, asked, horizonStatistics_eq_some.mpr ⟨sampled, rfl, summarizes⟩⟩

theorem horizons_increasing (success : run strategy history requested registry = .ok study) :
    study.horizons.Pairwise fun first second => first.horizon < second.horizon := by
  obtain ⟨_, events, trades, _, _, rfl⟩ := run_eq_ok.mp success
  rw [List.pairwise_filterMap]
  apply (effectiveHorizons_increasing requested).imp
  intro horizon later before first found second found'
  rw [(horizonStatistics_eq_some.mp found).2.1, (horizonStatistics_eq_some.mp found').2.1]
  exact before

/-- The horizons with statistics are those that are asked for and sampled. -/
theorem exists_horizon_iff (success : run strategy history requested registry = .ok study)
    {horizon : Nat} : (∃ statistics ∈ study.horizons, statistics.horizon = horizon) ↔
      horizon ∈ effectiveHorizons requested ∧
        ∃ event ∈ study.events, event.measures horizon = true := by
  rw [← samplesOf_ne_nil_iff (keyed_run success)]
  constructor
  · rintro ⟨statistics, listed, rfl⟩
    obtain ⟨asked, sampled, _⟩ := (mem_horizons_iff success).mp listed
    exact ⟨asked, sampled⟩
  · rintro ⟨asked, sampled⟩
    let values := samplesOf study.events horizon
    let count : α := Arithmetic.ofNat values.length
    exact ⟨⟨horizon, values.length, Arithmetic.sum values / count,
      Arithmetic.ofNat (values.filter Arithmetic.isPositive).length / count⟩,
      (mem_horizons_iff success).mpr ⟨asked, sampled, rfl, rfl, rfl⟩, rfl⟩

/-- Two studies of one history differ in the returns of their events and in the
horizons that they have statistics of at most. -/
theorem runs_agree (success : run strategy history requested registry = .ok study)
    (success' : run strategy history others registry = .ok study') :
    List.Forall₂ (ForwardEvent.Agrees (effectiveHorizons requested) (effectiveHorizons others))
        study.events study'.events ∧
      study.trades = study'.trades ∧ study.summary = study'.summary := by
  obtain ⟨_, events, trades, eventful, traded, rfl⟩ := run_eq_ok.mp success
  obtain ⟨_, events', trades', eventful', traded', rfl⟩ := run_eq_ok.mp success'
  have agree := eventsFrom_agrees eventful eventful'
  rw [triggered_congr (bare_congr agree), traded', Except.ok.injEq] at traded
  subst traded
  exact ⟨agree, rfl, rfl⟩

/-- A horizon that both of two studies measure, or neither, has the same statistics in
both. -/
theorem mem_horizons_congr (success : run strategy history requested registry = .ok study)
    (success' : run strategy history others registry = .ok study')
    {statistics : HorizonStatistics α}
    (same : statistics.horizon ∈ effectiveHorizons requested ↔
      statistics.horizon ∈ effectiveHorizons others) :
    statistics ∈ study'.horizons ↔ statistics ∈ study.horizons := by
  obtain ⟨agree, _⟩ := runs_agree success success'
  rw [mem_horizons_iff success, mem_horizons_iff success', same]
  by_cases asked : statistics.horizon ∈ effectiveHorizons others
  · rw [samplesOf_congr agree (same.mpr asked) asked]
  · simp only [asked, false_and]

end Run

theorem mem_effectiveHorizons_of_ne_nil {requested : List Nat} (nonempty : requested ≠ [])
    {horizon : Nat} :
    horizon ∈ effectiveHorizons requested ↔ horizon ∈ requested ∧ 0 < horizon := by
  rw [mem_effectiveHorizons, asked, if_neg (by simpa using nonempty), and_comm]

/-- A study has statistics, in strictly ascending order, of just those horizons that
were asked for, are not zero, and for which some event has a return; they are the
number of the returns that events have for the horizon, their mean and the share of
them above zero.  A study with other horizons has the same statistics of the horizons
that both ask for, and the same events but for the returns, trades and summary. -/
theorem run_horizons_exact (strategy : Strategy α) (valid : strategy.validate = .ok ())
    (history : List (Snapshot α)) (requested : List Nat) (nonempty : requested ≠ [])
    (registry : Registry α) :
    ∃ study, run strategy history requested registry = .ok study ∧
      (study.horizons.Pairwise fun first second => first.horizon < second.horizon) ∧
      (∀ horizon, (∃ statistics ∈ study.horizons, statistics.horizon = horizon) ↔
        horizon ∈ requested ∧ 0 < horizon ∧
          ∃ event ∈ study.events, ∃ value, (horizon, value) ∈ event.returns) ∧
      DateOrdered ForwardEvent.date study.events ∧
      (∀ event ∈ study.events,
        event.returns.Pairwise fun first second => first.1 < second.1) ∧
      (∀ statistics ∈ study.horizons, ∃ values,
        List.Forall₂ (fun event value => (statistics.horizon, value) ∈ event.returns)
            (study.events.filter fun event => event.measures statistics.horizon) values ∧
          statistics.Summarizes values) ∧
      ∀ others, ∃ study', run strategy history others registry = .ok study' ∧
        study'.events.map (·.bare) = study.events.map (·.bare) ∧
        study'.trades = study.trades ∧ study'.summary = study.summary ∧
        ∀ statistics, statistics.horizon ∈ requested → statistics.horizon ∈ others →
          (statistics ∈ study'.horizons ↔ statistics ∈ study.horizons) := by
  obtain ⟨study, success⟩ := run_complete valid history requested registry
  refine ⟨study, success, horizons_increasing success, ?_, dateOrdered_events success, ?_, ?_, ?_⟩
  · intro horizon
    rw [exists_horizon_iff success, mem_effectiveHorizons_of_ne_nil nonempty, and_assoc]
    simp only [ForwardEvent.measures_iff]
  · intro event member
    obtain ⟨_, _, returns⟩ := exists_returnsOf success member
    exact returns.increasing (effectiveHorizons_increasing requested)
  · intro statistics listed
    exact ⟨_, samplesOf_returns _ (keyed_run success), ((mem_horizons_iff success).mp listed).2.2⟩
  · intro others
    obtain ⟨study', success'⟩ := run_complete valid history others registry
    obtain ⟨agree, sameTrades, sameSummary⟩ := runs_agree success success'
    refine ⟨study', success', (bare_congr agree).symm, sameTrades.symm, sameSummary.symm, ?_⟩
    intro statistics member member'
    apply mem_horizons_congr success success'
    rw [mem_effectiveHorizons_of_ne_nil nonempty,
      mem_effectiveHorizons_of_ne_nil (List.ne_nil_of_mem member')]
    exact and_congr (iff_of_true member member') Iff.rfl

/-- Horizons in disorder, with a zero and a repetition: the zero has no statistics, one
day has, and the same as if it were asked for alone. -/
theorem run_horizons_exact_sample :
    Sample.strategy.validate = .ok () ∧ [2, 0, 1, 2] ≠ [] ∧ ∃ study study',
      run Sample.strategy Sample.history [2, 0, 1, 2] .empty = .ok study ∧
        run Sample.strategy Sample.history [1] .empty = .ok study' ∧
        (∃ statistics ∈ study.horizons, statistics.horizon = 1) ∧
        (¬ ∃ statistics ∈ study.horizons, statistics.horizon = 0) ∧
        study'.trades = study.trades ∧
        ∀ statistics, statistics.horizon = 1 →
          (statistics ∈ study'.horizons ↔ statistics ∈ study.horizons) := by
  obtain ⟨study, success, _, found, _, _, _, alone⟩ := run_horizons_exact Sample.strategy
    Sample.strategy_valid Sample.history [2, 0, 1, 2] (List.cons_ne_nil _ _) .empty
  obtain ⟨study', success', _, sameTrades, _, same⟩ := alone [1]
  refine ⟨Sample.strategy_valid, List.cons_ne_nil _ _, study, study', success, success', ?_, ?_,
    sameTrades, ?_⟩
  · have days : studyDays Sample.history = [Sample.snapshot Sample.firstDay 1,
        Sample.snapshot Sample.secondDay 3, Sample.snapshot Sample.thirdDay 4] :=
      Sample.history_inDateOrder
    have first : (studyDays Sample.history)[0]? = some (Sample.snapshot Sample.firstDay 1) := by
      rw [days]
      rfl
    have second : (studyDays Sample.history)[0 + 1]? =
        some (Sample.snapshot Sample.secondDay 3) := by
      rw [days]
      rfl
    obtain ⟨event, there, _, triggered⟩ :=
      exists_triggered success first (eq_ok_of_toOption (by decide +kernel))
    have listed := (measured_run success there first 1 _).mpr ⟨triggered, by decide +kernel,
      by decide, by decide, _, second, by decide +kernel, rfl⟩
    exact (found 1).mpr ⟨by decide, by decide, event, List.mem_of_getElem? there, _, listed⟩
  · intro zero
    obtain ⟨_, positive, _⟩ := (found 0).mp zero
    exact absurd positive (Nat.lt_irrefl 0)
  · intro statistics one
    apply same
    · rw [one]
      decide
    · rw [one]
      decide

end ForwardStudy

end DailySignals
