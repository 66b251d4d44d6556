import DailySignals.Proofs.DateOrder
import DailySignals.Proofs.Forward.Completion
import Mathlib.Data.List.Forall2

/-!
# The trades of a study are a greedy schedule

A unit is bought whenever none is held and a day opens, and it is left on the
first later day that calls for an exit, or at the end.  What this makes of the
days is said by the places of the days alone (`IsSchedule`), and the days leave
no choice in it.  The days of a study are gone through once, with a unit held or
not; what is proved of a day is how a schedule of the days behind it becomes one
of the days from it on.
-/

set_option autoImplicit false

namespace DailySignals

variable {α : Type} [Arithmetic α]

namespace ForwardStudy

/-- The unit that is bought at the close of a day. -/
def unitOf (day : Snapshot α) : Position α :=
  Position.opened day.date day.close 1

/-- A day on which a unit is bought if none is held. -/
def Opens (strategy : Strategy α) (registry : Registry α) (day : Snapshot α) : Prop :=
  strategy.entrySignal registry day = .ok true ∧ 0 < day.close

/-- What a day calls for while the unit of an earlier day is held. -/
def calls (strategy : Strategy α) (registry : Registry α) (entered day : Snapshot α) :
    Except ParamsFault (Option ExitReason) :=
  Exit.decision strategy registry day (unitOf entered) day.close

/-- The days between which a unit is held, with their places among all days, and
why it is left. -/
@[ext]
structure Span (α : Type) where
  entry : Nat
  entered : Snapshot α
  exit : Nat
  left : Snapshot α
  reason : ExitReason

/-- The trade of a unit held between two days.  The end of the data costs
nothing. -/
def tradeOf (strategy : Strategy α) (span : Span α) : Trade α :=
  simulatedTrade strategy (unitOf span.entered) span.left span.reason
    (if span.reason = .endOfData then 0 else exitCost)

/-- What is received for a unit: the close of the day on which it is left, less a
thousandth of it unless the data ends there. -/
def Span.received (span : Span α) : α :=
  span.left.close * (1 - if span.reason = .endOfData then 0 else 0.001)

/-- What a trade says of a unit held between two days. -/
structure Span.TradedAs (symbol : String) (span : Span α) (trade : Trade α) : Prop where
  symbol : trade.symbol = symbol
  entryDate : trade.entryDate = span.entered.date
  entryPrice : trade.entryPrice = span.entered.close
  exitDate : trade.exitDate = span.left.date
  exitPrice : trade.exitPrice = span.left.close
  quantity : trade.quantity = 1
  reason : trade.reason = span.reason
  profit : trade.profit = (span.received - span.entered.close) * 1
  profitRate : trade.profitRate = span.received / span.entered.close - 1
  holdDays : trade.holdDays = span.left.date.daysSince span.entered.date

theorem tradedAs_tradeOf (strategy : Strategy α) (span : Span α) :
    span.TradedAs strategy.symbol (tradeOf strategy span) where
  symbol := rfl
  entryDate := rfl
  entryPrice := rfl
  exitDate := rfl
  exitPrice := rfl
  quantity := rfl
  reason := rfl
  profit := rfl
  profitRate := rfl
  holdDays := rfl

/-- No day between two places, both excluded, calls for an exit. -/
def Keeps (strategy : Strategy α) (registry : Registry α) (days : List (Snapshot α))
    (entered : Snapshot α) (entry exit : Nat) : Prop :=
  ∀ index day, entry < index → index < exit → days[index]? = some day →
    calls strategy registry entered day = .ok none

/-- A unit is left on the first later day that calls for an exit, or else on the
last day of all. -/
inductive Span.Leaves (strategy : Strategy α) (registry : Registry α)
    (days : List (Snapshot α)) (span : Span α) : Prop
  | called (later : span.entry < span.exit)
      (calls : calls strategy registry span.entered span.left = .ok (some span.reason))
      (keeps : Keeps strategy registry days span.entered span.entry span.exit)
  | ended (atEnd : span.reason = .endOfData) (last : span.exit + 1 = days.length)
      (keeps : Keeps strategy registry days span.entered span.entry days.length)

/-- Spans that follow each other, from a place on, such that each begins on a day
that opens and ends where it must, and no other day that opens is left out. -/
structure IsSchedule (strategy : Strategy α) (registry : Registry α)
    (days : List (Snapshot α)) (start : Nat) (spans : List (Span α)) : Prop where
  entered : ∀ span ∈ spans, start ≤ span.entry ∧ days[span.entry]? = some span.entered ∧
    Opens strategy registry span.entered
  left : ∀ span ∈ spans, days[span.exit]? = some span.left ∧
    span.Leaves strategy registry days
  apart : spans.Pairwise fun earlier later => earlier.exit < later.entry
  complete : ∀ index day, start ≤ index → days[index]? = some day →
    Opens strategy registry day →
    ∃ span ∈ spans, span.entry = index ∨ span.entry < index ∧ index ≤ span.exit

variable {strategy : Strategy α} {registry : Registry α} {days : List (Snapshot α)}
  {start : Nat} {span : Span α} {spans others : List (Span α)}

/-- No day calls for the end of the data. -/
theorem calls_ne_endOfData (scorable : strategy.Scorable) {entered day : Snapshot α}
    {reason : ExitReason} (called : calls strategy registry entered day = .ok (some reason)) :
    reason ≠ .endOfData := by
  rw [calls, Exit.decision_eq_find? scorable, Except.ok.injEq] at called
  have listed := List.mem_of_find?_eq_some called
  rintro rfl
  simp [Exit.precedence] at listed

theorem Span.Leaves.entry_le_exit (leaves : span.Leaves strategy registry days)
    (there : days[span.entry]? = some span.entered) : span.entry ≤ span.exit := by
  cases leaves with
  | called later calls keeps => exact Nat.le_of_lt later
  | ended atEnd last keeps =>
      obtain ⟨inside, _⟩ := List.getElem?_eq_some_iff.mp there
      omega

namespace IsSchedule

/-! ## From a day to the days from it on -/

theorem nil (atEnd : days.length ≤ start) : IsSchedule strategy registry days start [] where
  entered := by simp
  left := by simp
  apart := .nil
  complete := by
    intro index day later there
    obtain ⟨inside, _⟩ := List.getElem?_eq_some_iff.mp there
    omega

theorem skip {day : Snapshot α} (there : days[start]? = some day)
    (quiet : ¬ Opens strategy registry day)
    (rest : IsSchedule strategy registry days (start + 1) spans) :
    IsSchedule strategy registry days start spans where
  entered := by
    intro span member
    obtain ⟨later, opened⟩ := rest.entered span member
    exact ⟨by omega, opened⟩
  left := rest.left
  apart := rest.apart
  complete := by
    intro index other later found opens
    rcases Nat.eq_or_lt_of_le later with rfl | later
    · cases Option.some.inj (there.symm.trans found)
      exact absurd opens quiet
    · exact rest.complete index other later found opens

theorem cons (opened : days[span.entry]? = some span.entered)
    (opens : Opens strategy registry span.entered)
    (closed : days[span.exit]? = some span.left)
    (leaves : span.Leaves strategy registry days)
    (rest : IsSchedule strategy registry days (span.exit + 1) others) :
    IsSchedule strategy registry days span.entry (span :: others) where
  entered := by
    have forward := leaves.entry_le_exit opened
    intro other member
    rcases List.mem_cons.mp member with rfl | member
    · exact ⟨Nat.le_refl _, opened, opens⟩
    · obtain ⟨later, found⟩ := rest.entered other member
      exact ⟨by omega, found⟩
  left := by
    intro other member
    rcases List.mem_cons.mp member with rfl | member
    · exact ⟨closed, leaves⟩
    · exact rest.left other member
  apart := by
    refine List.pairwise_cons.mpr ⟨?_, rest.apart⟩
    intro other member
    exact (rest.entered other member).1
  complete := by
    intro index day later found opensThere
    by_cases inside : index ≤ span.exit
    · refine ⟨span, List.mem_cons_self, ?_⟩
      rcases Nat.eq_or_lt_of_le later with same | later
      · exact .inl same
      · exact .inr ⟨later, inside⟩
    · obtain ⟨other, member, covers⟩ := rest.complete index day (by omega) found opensThere
      exact ⟨other, List.mem_cons_of_mem _ member, covers⟩

/-! ## The days leave no choice -/

theorem tail (schedule : IsSchedule strategy registry days start (span :: others)) :
    IsSchedule strategy registry days (span.exit + 1) others where
  entered := by
    intro other member
    have found := schedule.entered other (List.mem_cons_of_mem _ member)
    exact ⟨(List.pairwise_cons.mp schedule.apart).1 other member, found.2⟩
  left := fun other member => schedule.left other (List.mem_cons_of_mem _ member)
  apart := (List.pairwise_cons.mp schedule.apart).2
  complete := by
    intro index day later found opens
    have head := schedule.entered span List.mem_cons_self
    have forward := (schedule.left span List.mem_cons_self).2.entry_le_exit head.2.1
    obtain ⟨other, member, covers⟩ :=
      schedule.complete index day (by omega) found opens
    rcases List.mem_cons.mp member with rfl | member
    · omega
    · exact ⟨other, member, covers⟩

/-- The first span of a schedule begins on the first day that opens. -/
theorem entry_le (schedule : IsSchedule strategy registry days start (span :: others))
    {index : Nat} {day : Snapshot α} (later : start ≤ index) (found : days[index]? = some day)
    (opens : Opens strategy registry day) : span.entry ≤ index := by
  have head := schedule.entered span List.mem_cons_self
  have forward := (schedule.left span List.mem_cons_self).2.entry_le_exit head.2.1
  obtain ⟨other, member, covers⟩ := schedule.complete index day later found opens
  rcases List.mem_cons.mp member with rfl | member
  · omega
  · have behind := (List.pairwise_cons.mp schedule.apart).1 other member
    omega

end IsSchedule

/-- Where a unit is left and why is known from the day it was bought. -/
theorem Span.Leaves.unique {first second : Span α} (sameEntry : first.entry = second.entry)
    (sameDay : first.entered = second.entered)
    (there : days[first.exit]? = some first.left) (there' : days[second.exit]? = some second.left)
    (leaves : first.Leaves strategy registry days)
    (leaves' : second.Leaves strategy registry days) :
    first.exit = second.exit ∧ first.reason = second.reason := by
  cases leaves with
  | called later called keeps =>
      cases leaves' with
      | called later' called' keeps' =>
          rw [← sameDay] at called' keeps'
          -- the earlier of two exits would have been passed over by the other unit
          rcases Nat.lt_trichotomy first.exit second.exit with before | same | after
          · have passed := keeps' _ _ (sameEntry ▸ later) before there
            cases called.symm.trans passed
          · rw [same] at there
            have sameLeft := Option.some.inj (there.symm.trans there')
            rw [sameLeft] at called
            exact ⟨same, Option.some.inj (Except.ok.inj (called.symm.trans called'))⟩
          · have passed := keeps _ _ (sameEntry.symm ▸ later') after there'
            cases called'.symm.trans passed
      | ended atEnd' last' keeps' =>
          rw [← sameDay, ← sameEntry] at keeps'
          obtain ⟨inside, _⟩ := List.getElem?_eq_some_iff.mp there
          cases called.symm.trans (keeps' _ _ later inside there)
  | ended atEnd last keeps =>
      cases leaves' with
      | called later' called' keeps' =>
          rw [sameDay, sameEntry] at keeps
          obtain ⟨inside, _⟩ := List.getElem?_eq_some_iff.mp there'
          cases called'.symm.trans (keeps _ _ later' inside there')
      | ended atEnd' last' keeps' => exact ⟨by omega, atEnd.trans atEnd'.symm⟩

namespace IsSchedule

theorem unique (schedule : IsSchedule strategy registry days start spans)
    (schedule' : IsSchedule strategy registry days start others) : spans = others := by
  induction spans generalizing start others with
  | nil =>
      cases others with
      | nil => rfl
      | cons other rest =>
          obtain ⟨later, found, opens⟩ := schedule'.entered other List.mem_cons_self
          obtain ⟨_, absent, _⟩ := schedule.complete other.entry other.entered later found opens
          cases absent
  | cons span rest ih =>
      obtain ⟨later, found, opens⟩ := schedule.entered span List.mem_cons_self
      cases others with
      | nil =>
          obtain ⟨_, absent, _⟩ := schedule'.complete span.entry span.entered later found opens
          cases absent
      | cons other rest' =>
          obtain ⟨later', found', opens'⟩ := schedule'.entered other List.mem_cons_self
          have sameEntry : span.entry = other.entry := Nat.le_antisymm
            (schedule.entry_le later' found' opens') (schedule'.entry_le later found opens)
          have sameDay : span.entered = other.entered := by
            rw [sameEntry] at found
            exact Option.some.inj (found.symm.trans found')
          obtain ⟨there, leaves⟩ := schedule.left span List.mem_cons_self
          obtain ⟨there', leaves'⟩ := schedule'.left other List.mem_cons_self
          obtain ⟨sameExit, sameReason⟩ :=
            Span.Leaves.unique sameEntry sameDay there there' leaves leaves'
          have sameLeft : span.left = other.left := by
            rw [sameExit] at there
            exact Option.some.inj (there.symm.trans there')
          obtain rfl : span = other :=
            Span.ext sameEntry sameDay sameExit sameLeft sameReason
          rw [ih schedule.tail schedule'.tail]

/-- A unit that is held to the end is the last one. -/
theorem before_end (scorable : strategy.Scorable)
    (schedule : IsSchedule strategy registry days start spans) :
    spans.Pairwise fun earlier _ => earlier.reason ≠ .endOfData := by
  apply schedule.apart.imp_of_mem
  intro earlier later member member' behind atEnd
  cases (schedule.left earlier member).2 with
  | called later calls keeps =>
      rw [atEnd] at calls
      exact calls_ne_endOfData scorable calls rfl
  | ended _ last keeps =>
      obtain ⟨inside, _⟩ :=
        List.getElem?_eq_some_iff.mp (schedule.entered later member').2.1
      omega

end IsSchedule

/-! ## From the days of a study to its trades -/

theorem Keeps.none_between (entered : Snapshot α) (entry : Nat) :
    Keeps strategy registry days entered entry (entry + 1) := by
  intro index day after before
  omega

theorem Keeps.extend {entered day : Snapshot α} {entry : Nat}
    (keeps : Keeps strategy registry days entered entry start) (there : days[start]? = some day)
    (stays : calls strategy registry entered day = .ok none) :
    Keeps strategy registry days entered entry (start + 1) := by
  intro index other after before found
  rcases Nat.lt_or_ge index start with earlier | later
  · exact keeps index other after earlier found
  · obtain rfl : index = start := by omega
    cases Option.some.inj (there.symm.trans found)
    exact stays

/-- A unit is held, and what becomes of it is followed by a schedule of the days
behind. -/
def Continues (strategy : Strategy α) (registry : Registry α) (days : List (Snapshot α))
    (entered : Snapshot α) (entry : Nat) (spans : List (Span α)) : Prop :=
  ∃ span others, spans = span :: others ∧ span.entry = entry ∧ span.entered = entered ∧
    days[span.exit]? = some span.left ∧ span.Leaves strategy registry days ∧
    IsSchedule strategy registry days (span.exit + 1) others

namespace Continues

variable {entered day last : Snapshot α} {entry : Nat}

/-- A unit that is never called for is held to the last day. -/
theorem of_end (found : days[entry]? = some entered)
    (keeps : Keeps strategy registry days entered entry days.length)
    (final : days.getLast? = some last) :
    Continues strategy registry days entered entry
      [⟨entry, entered, days.length - 1, last, .endOfData⟩] := by
  obtain ⟨inside, _⟩ := List.getElem?_eq_some_iff.mp found
  have ends : days.length - 1 + 1 = days.length := by omega
  rw [List.getLast?_eq_getElem?] at final
  exact ⟨_, [], rfl, rfl, rfl, final, .ended rfl ends keeps, .nil (Nat.le_of_eq ends.symm)⟩

/-- A unit is left on the first day that calls for it, and what follows is a
schedule of the days behind. -/
theorem of_call {reason : ExitReason} (before : entry < start)
    (keeps : Keeps strategy registry days entered entry start)
    (there : days[start]? = some day)
    (called : calls strategy registry entered day = .ok (some reason))
    (rest : IsSchedule strategy registry days (start + 1) spans) :
    Continues strategy registry days entered entry
      (⟨entry, entered, start, day, reason⟩ :: spans) :=
  ⟨_, spans, rfl, rfl, rfl, there, .called before called keeps, rest⟩

/-- What becomes of a unit that was bought on a day is a schedule of the days
from it on. -/
theorem isSchedule (continues : Continues strategy registry days entered entry spans)
    (found : days[entry]? = some entered) (opens : Opens strategy registry entered) :
    IsSchedule strategy registry days entry spans := by
  obtain ⟨span, others, rfl, rfl, rfl, closed, leaves, rest⟩ := continues
  exact .cons found opens closed leaves rest

end Continues

theorem opens_iff {day : Snapshot α} {triggered : Bool}
    (signalled : strategy.entrySignal registry day = .ok triggered) :
    Opens strategy registry day ↔ (triggered && Arithmetic.isPositive day.close) = true := by
  rw [Opens, signalled, Except.ok.injEq, Bool.and_eq_true, Arithmetic.isPositive,
    decide_eq_true_eq]

/-- The trades of the days from a place on are those of a schedule, whether a
unit is held there or not. -/
theorem tradesFrom_spans (scorable : strategy.Scorable) {rest : List (Snapshot α × Bool)}
    (signalled : ∀ entry ∈ rest, strategy.entrySignal registry entry.1 = .ok entry.2)
    (suffix : days.drop start = rest.map (·.1)) :
    (∀ trades, tradesFrom strategy registry days.getLast? none rest = .ok trades →
      ∃ spans, IsSchedule strategy registry days start spans ∧
        trades = spans.map (tradeOf strategy)) ∧
    (∀ trades entered entry, days[entry]? = some entered → entry < start →
      Keeps strategy registry days entered entry start →
      tradesFrom strategy registry days.getLast? (some (unitOf entered)) rest = .ok trades →
      ∃ spans, Continues strategy registry days entered entry spans ∧
        trades = spans.map (tradeOf strategy)) := by
  -- on the days that are still to come, with and without a unit at once: each day
  -- may turn the one into the other
  induction rest generalizing start with
  | nil =>
      have atEnd : days.length ≤ start := List.drop_eq_nil_iff.mp suffix
      constructor
      · intro trades traded
        cases traded
        exact ⟨[], .nil atEnd, rfl⟩
      · intro trades entered entry found before keeps traded
        obtain ⟨last, final⟩ : ∃ last, days.getLast? = some last := by
          obtain ⟨inside, _⟩ := List.getElem?_eq_some_iff.mp found
          rw [List.getLast?_eq_getElem?]
          exact ⟨_, List.getElem?_eq_getElem (by omega)⟩
        rw [tradesFrom, final, Except.ok.injEq] at traded
        refine ⟨_, .of_end found ?_ final, traded.symm⟩
        intro index day after within
        exact keeps index day after (by omega)
  | cons first rest ih =>
      obtain ⟨day, triggered⟩ := first
      have there : days[start]? = some day := by
        have heads := congrArg (·[0]?) suffix
        simpa using heads
      have behind : days.drop (start + 1) = rest.map (·.1) := by
        rw [← List.tail_drop, suffix]
        rfl
      obtain ⟨flat, holding⟩ :=
        ih (fun entry member => signalled entry (List.mem_cons_of_mem _ member)) behind
      have opens := opens_iff (signalled (day, triggered) List.mem_cons_self)
      constructor
      · intro trades traded
        rw [tradesFrom] at traded
        cases bought : triggered && Arithmetic.isPositive day.close with
        | true =>
            rw [bought] at traded
            obtain ⟨spans, continues, rfl⟩ :=
              holding trades day start there (by omega) (.none_between day start) traded
            exact ⟨spans, continues.isSchedule there (opens.mpr bought), rfl⟩
        | false =>
            rw [bought] at traded
            obtain ⟨spans, schedule, rfl⟩ := flat trades traded
            have quiet : ¬ Opens strategy registry day := by
              rw [opens, bought]
              exact Bool.false_ne_true
            exact ⟨spans, schedule.skip there quiet, rfl⟩
      · intro trades entered entry found before keeps traded
        rw [tradesFrom] at traded
        obtain ⟨answer, called, traded⟩ := bind_eq_ok.mp traded
        cases answer with
        | none =>
            exact holding trades entered entry found (by omega) (keeps.extend there called)
              traded
        | some reason =>
            obtain ⟨later, onward, same⟩ := bind_eq_ok.mp traded
            cases same
            obtain ⟨spans, schedule, rfl⟩ := flat later onward
            have costs : tradeOf strategy ⟨entry, entered, start, day, reason⟩ =
                simulatedTrade strategy (unitOf entered) day reason exitCost := by
              rw [tradeOf, if_neg (calls_ne_endOfData scorable called)]
            refine ⟨_, .of_call before keeps there called schedule, ?_⟩
            rw [List.map_cons, costs]

/-- What is held against the threshold is the score that the entry signal
looks at. -/
theorem entrySignal_of_scores {snapshot : Snapshot α} {entry : Option (ScoreBreakdown α)}
    {exitScore : Option α} {triggered : Bool}
    (scored : scores strategy registry snapshot = .ok (entry, exitScore, triggered)) :
    strategy.entrySignal registry snapshot = .ok triggered := by
  unfold scores at scored
  cases kind : strategy.signals with
  | conditions buy sell =>
      simp only [kind] at scored
      obtain ⟨signal, signalled, same⟩ := bind_eq_ok.mp scored
      cases same
      exact signalled
  | scoring rules =>
      simp only [kind] at scored
      obtain ⟨breakdown, computed, scored⟩ := bind_eq_ok.mp scored
      have same : triggered = decide (rules.entryThreshold ≤ breakdown.total) := by
        split at scored
        · cases scored
          rfl
        · obtain ⟨_, _, same⟩ := bind_eq_ok.mp scored
          cases same
          rfl
      rw [Strategy.entrySignal, kind, same]
      simp only [Registry.triggersEntry, Registry.score, computed]
      rfl

/-- An event is of its day and has its signal. -/
def EventOf (strategy : Strategy α) (registry : Registry α) (event : ForwardEvent α)
    (day : Snapshot α) : Prop :=
  event.date = day.date ∧ event.close = day.close ∧
    strategy.entrySignal registry day = .ok event.triggered

theorem eventsFrom_days {horizons : List Nat} {following : List (Snapshot α)} {index : Nat}
    {events : List (ForwardEvent α)}
    (eventful : eventsFrom strategy registry horizons days index following = .ok events) :
    List.Forall₂ (EventOf strategy registry) events following := by
  induction following generalizing index events with
  | nil =>
      cases eventful
      exact .nil
  | cons day following ih =>
      obtain ⟨first, found, rest⟩ := bind_eq_ok.mp eventful
      obtain ⟨others, onward, same⟩ := bind_eq_ok.mp rest
      cases same
      obtain ⟨⟨entry, exitScore, triggered⟩, scored, same⟩ := bind_eq_ok.mp found
      cases same
      exact .cons ⟨rfl, rfl, entrySignal_of_scores scored⟩ (ih onward)

theorem eventsOf_days {horizons : List Nat} {events : List (ForwardEvent α)}
    (eventful : eventsOf strategy registry horizons days = .ok events) :
    List.Forall₂ (EventOf strategy registry) events days :=
  eventsFrom_days eventful

/-- The trades see each day with the flag of its event, and no day is lost. -/
theorem zip_flags {events : List (ForwardEvent α)}
    (eventful : List.Forall₂ (EventOf strategy registry) events days) :
    (days.zip (events.map (·.triggered))).map (·.1) = days ∧
      ∀ entry ∈ days.zip (events.map (·.triggered)),
        strategy.entrySignal registry entry.1 = .ok entry.2 := by
  induction eventful with
  | nil => simp
  | cons first rest ih =>
      obtain ⟨same, signalled⟩ := ih
      rw [List.map_cons, List.zip_cons_cons]
      refine ⟨by rw [List.map_cons, same], ?_⟩
      intro entry member
      rcases List.mem_cons.mp member with rfl | member
      · exact first.2.2
      · exact signalled entry member

/-- The trades of a study are the one schedule of its days.  The days are the
successful snapshots in date order, those of one date as the history has them;
each has its event, with the entry signal of the day.  A unit is bought at the
close of every day that opens while none is held, and is left on the first later
day that calls for an exit, or on the last day of all, which only the last unit
can be.  Its trade says on which days this was, at which closes and why. -/
theorem run_schedule (valid : strategy.validate = .ok ()) (history : List (Snapshot α))
    (requested : List Nat) (registry : Registry α) :
    ∃ study days spans,
      run strategy history requested registry = .ok study ∧
        DateOrdered Snapshot.date days ∧
        (∀ date, rowsOn Snapshot.date date days =
          rowsOn Snapshot.date date (history.filter (·.success))) ∧
        List.Forall₂ (EventOf strategy registry) study.events days ∧
        List.Forall₂ (Span.TradedAs strategy.symbol) spans study.trades ∧
        IsSchedule strategy registry days 0 spans ∧
        (study.trades.Pairwise fun earlier _ => earlier.reason ≠ .endOfData) ∧
        ∀ others, IsSchedule strategy registry days 0 others → others = spans := by
  have scorable := Strategy.scorable_of_validate valid
  obtain ⟨study, success⟩ := run_complete valid history requested registry
  obtain ⟨_, events, trades, eventful, traded, rfl⟩ := run_eq_ok.mp success
  have ofDays := eventsOf_days eventful
  obtain ⟨same, signalled⟩ := zip_flags ofDays
  have fromStart := List.drop_zero.trans same.symm
  obtain ⟨spans, schedule, rfl⟩ :=
    (tradesFrom_spans scorable signalled fromStart).1 trades traded
  refine ⟨_, studyDays history, spans, success, Snapshot.dateOrdered_inDateOrder _,
    fun date => Snapshot.rowsOn_inDateOrder date _, ofDays, ?_, schedule, ?_,
    fun others other => other.unique schedule⟩
  · exact List.forall₂_map_right_iff.mpr
      (List.forall₂_same.mpr fun span _ => tradedAs_tradeOf strategy span)
  · rw [List.pairwise_map]
    exact schedule.before_end scorable

theorem run_schedule_sample :
    Sample.strategy.validate = .ok () ∧
      ∃ study days spans,
        run Sample.strategy Sample.history [] .empty = .ok study ∧
          DateOrdered Snapshot.date days ∧
          (∀ date, rowsOn Snapshot.date date days =
            rowsOn Snapshot.date date (Sample.history.filter (·.success))) ∧
          List.Forall₂ (EventOf Sample.strategy .empty) study.events days ∧
          List.Forall₂ (Span.TradedAs Sample.strategy.symbol) spans study.trades ∧
          IsSchedule Sample.strategy .empty days 0 spans ∧
          (study.trades.Pairwise fun earlier _ => earlier.reason ≠ .endOfData) ∧
          ∀ others, IsSchedule Sample.strategy .empty days 0 others → others = spans :=
  ⟨Sample.strategy_valid, run_schedule Sample.strategy_valid Sample.history [] .empty⟩

end ForwardStudy

end DailySignals
