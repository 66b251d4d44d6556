import DailySignals.Proofs.Backtest.Completion

/-!
# Positions are taken up when the policy says

A day that has no position after its exit step takes one up exactly if four
things hold (`Enters`): the account has rested since its last exit, the day has
not lost too much, the strategy signals an entry, and there is money to spend at
a price.  The dates that the first of them speaks of are those of the trades so
far (`Portfolio.ExitsInOrder`), so entries keep their distance from every
earlier exit (`Portfolio.Spaced`).
-/

set_option autoImplicit false

namespace DailySignals

variable {α : Type}

namespace Portfolio

/-- An account whose trades closed on some dates only, one after another, and
which remembers the date of the last. -/
structure ExitsInOrder (dates : List Date) (portfolio : Portfolio α) : Prop where
  exit_dates : ∀ trade ∈ portfolio.trades, trade.exitDate ∈ dates
  exits_ordered : DateOrdered Trade.exitDate portfolio.trades
  lastExit_eq : portfolio.lastExit = portfolio.trades.getLast?.map (·.exitDate)

/-- An account in which entries are more than some days later than each exit
before them. -/
structure Spaced (days : Nat) (portfolio : Portfolio α) : Prop where
  trades_spaced : portfolio.trades.Pairwise fun first second =>
    (days : Int) < second.entryDate.daysSince first.exitDate
  open_spaced : ∀ position, portfolio.position = some position →
    ∀ trade ∈ portfolio.trades, (days : Int) < position.entryDate.daysSince trade.exitDate

variable {dates : List Date} {days : Nat} {date : Date} {portfolio : Portfolio α}
  {position : Position α}

theorem exitsInOrder_start (initial : α) : ExitsInOrder [] (start initial) where
  exit_dates := by simp [start]
  exits_ordered := List.Pairwise.nil
  lastExit_eq := rfl

theorem spaced_start (initial : α) : Spaced days (start initial) where
  trades_spaced := List.Pairwise.nil
  open_spaced := by simp [start]

/-- No trade closed after the last one did. -/
theorem ExitsInOrder.le_last (inOrder : ExitsInOrder dates portfolio) {last : Trade α}
    (isLast : portfolio.trades.getLast? = some last) :
    ∀ trade ∈ portfolio.trades, trade.exitDate ≤ last.exitDate := by
  obtain ⟨earlier, whole⟩ := List.getLast?_eq_some_iff.mp isLast
  have ordered := inOrder.exits_ordered
  rw [DateOrdered, whole, List.pairwise_append] at ordered
  intro trade member
  rw [whole] at member
  rcases List.mem_append.mp member with before | now
  · exact ordered.2.2 trade before last (List.mem_singleton_self last)
  · rw [List.mem_singleton] at now
    rw [now]
    exact Int.le_refl _

theorem ExitsInOrder.later (inOrder : ExitsInOrder dates portfolio) (date : Date) :
    ExitsInOrder (dates ++ [date]) portfolio where
  exit_dates := fun trade member => List.mem_append_left _ (inOrder.exit_dates trade member)
  exits_ordered := inOrder.exits_ordered
  lastExit_eq := inOrder.lastExit_eq

variable [Arithmetic α]

theorem ExitsInOrder.released (inOrder : ExitsInOrder dates portfolio)
    (latest : ∀ earlier ∈ dates, earlier ≤ date) (position : Position α) {trade : Trade α}
    (dated : trade.exitDate = date) :
    ExitsInOrder (dates ++ [date]) (portfolio.released position trade) where
  exit_dates := by
    intro other member
    rcases List.mem_append.mp member with earlier | new
    · exact List.mem_append_left _ (inOrder.exit_dates other earlier)
    · rw [List.mem_singleton] at new
      rw [new, dated]
      exact List.mem_append_right _ (List.mem_singleton_self date)
  exits_ordered := by
    apply List.pairwise_append.mpr
    refine ⟨inOrder.exits_ordered, List.pairwise_singleton _ _, ?_⟩
    intro earlier member new isNew
    rw [List.mem_singleton] at isNew
    rw [isNew, dated]
    exact latest _ (inOrder.exit_dates earlier member)
  lastExit_eq := by
    change some trade.exitDate = (portfolio.trades ++ [trade]).getLast?.map (·.exitDate)
    rw [List.getLast?_concat]
    rfl

theorem Spaced.released (spaced : Spaced days portfolio)
    (held : portfolio.position = some position) {trade : Trade α}
    (entry : trade.entryDate = position.entryDate) :
    Spaced days (portfolio.released position trade) where
  trades_spaced := by
    apply List.pairwise_append.mpr
    refine ⟨spaced.trades_spaced, List.pairwise_singleton _ _, ?_⟩
    intro earlier member new isNew
    rw [List.mem_singleton] at isNew
    rw [isNew, entry]
    exact spaced.open_spaced position held earlier member
  open_spaced := by
    intro other stillHeld
    cases stillHeld

theorem Spaced.holding (spaced : Spaced days portfolio)
    (rested : ∀ trade ∈ portfolio.trades,
      (days : Int) < position.entryDate.daysSince trade.exitDate) :
    Spaced days (portfolio.holding position) where
  trades_spaced := spaced.trades_spaced
  open_spaced := by
    intro other held
    cases held
    exact rested

end Portfolio

namespace Backtest

open Portfolio

/-- The account may enter again: there is no cooldown, nothing was left before,
or the last exit is more than the cooldown ago. -/
def Rested (risk : RiskSettings α) (trades : List (Trade α)) (date : Date) : Prop :=
  risk.cooldownDays = 0 ∨ trades = [] ∨
    ∃ last, trades.getLast? = some last ∧
      (risk.cooldownDays : Int) < date.daysSince last.exitDate

theorem coolingDown_eq_false {risk : RiskSettings α} {portfolio : Portfolio α} (date : Date)
    (remembered : portfolio.lastExit = portfolio.trades.getLast?.map (·.exitDate)) :
    coolingDown risk portfolio date = false ↔ Rested risk portfolio.trades date := by
  rw [coolingDown, daysSinceExit, remembered, Rested, Bool.and_eq_false_iff,
    decide_eq_false_iff_not]
  apply or_congr
  · omega
  · cases isLast : portfolio.trades.getLast? with
    | none =>
        rw [List.getLast?_eq_none_iff] at isLast
        simp [isLast]
    | some last =>
        have traded : portfolio.trades ≠ [] := by
          intro empty
          rw [empty] at isLast
          cases isLast
        simp [traded]

variable [Arithmetic α]

/-- The loss since the day began is not at or above its limit, as far as there
is a limit and a positive amount that it is a fraction of. -/
def WithinLossLimit (risk : RiskSettings α) (dayStart equity : α) : Prop :=
  risk.maxDailyLoss = none ∨ ¬ 0 < dayStart ∨
    ∃ limit, risk.maxDailyLoss = some limit ∧ ¬ limit ≤ (dayStart - equity) / dayStart

/-- What it takes for a day to take up a position, when the day began with an
equity of `dayStart` and its exit step left the account `between`. -/
structure Enters (strategy : Strategy α) (registry : Registry α) (series : PriceSeries α)
    (day : TradingDay α) (dayStart : α) (between : Portfolio α) : Prop where
  rested : Rested strategy.risk between.trades day.date
  withinLimit : WithinLossLimit strategy.risk dayStart between.equity
  signalled : strategy.entrySignal registry day.snapshot = .ok true
  funded : 0 < strategy.risk.orderNotional between.equity
  priced : 0 < series.fillPrice strategy.risk.fillMode day.date day.bar.close

/-- The position that the order of a day buys. -/
def bought (strategy : Strategy α) (series : PriceSeries α) (day : TradingDay α)
    (equity : α) : Position α :=
  Position.opened day.date (series.fillPrice strategy.risk.fillMode day.date day.bar.close)
    (strategy.risk.orderNotional equity /
      series.fillPrice strategy.risk.fillMode day.date day.bar.close)

/-- What the account was worth when the day of an index began: its mark on the
day before, or the money of the start. -/
def dayStart (result : Backtest α) (initial : α) : Nat → α
  | 0 => initial
  | index + 1 => (result.curve[index]?.map (·.equity)).getD initial

variable {strategy : Strategy α} {registry : Registry α} {series : PriceSeries α}
  {day : TradingDay α} {dates : List Date} {portfolio after : Portfolio α} {dayStart : α}

theorem lossLimitReached_eq_false {risk : RiskSettings α} {equity : α} :
    lossLimitReached risk dayStart equity = false ↔ WithinLossLimit risk dayStart equity := by
  rw [lossLimitReached, WithinLossLimit]
  cases risk.maxDailyLoss with
  | none => simp
  | some limit =>
      by_cases positive : 0 < dayStart
      · simp [Arithmetic.isPositive, positive]
      · simp [Arithmetic.isPositive, positive]

theorem entryBlocked_eq_false {risk : RiskSettings α} {date : Date}
    (remembered : portfolio.lastExit = portfolio.trades.getLast?.map (·.exitDate)) :
    entryBlocked risk portfolio date dayStart = false ↔
      Rested risk portfolio.trades date ∧
        WithinLossLimit risk dayStart portfolio.equity := by
  rw [entryBlocked, Bool.or_eq_false_iff, coolingDown_eq_false date remembered,
    lossLimitReached_eq_false]

/-- An entry step that starts without a position buys if and only if everything
that it takes is there, and then it buys what the order says. -/
theorem EntryOutcome.enters_iff
    (outcome : EntryOutcome strategy registry series day dayStart portfolio after)
    (aligned : day.Aligned)
    (remembered : portfolio.lastExit = portfolio.trades.getLast?.map (·.exitDate))
    (free : portfolio.position = none) :
    ((∃ position, after.position = some position ∧ position.entryDate = day.date) ↔
        Enters strategy registry series day dayStart portfolio) ∧
      ∀ position, after.position = some position →
        position = bought strategy series day portfolio.equity := by
  have gate : entryBlocked strategy.risk portfolio day.date dayStart = false ↔
      Rested strategy.risk portfolio.trades day.date ∧
        WithinLossLimit strategy.risk dayStart portfolio.equity :=
    entryBlocked_eq_false remembered
  -- all but one of the ways leave the account as it was, without a position
  have stays (unmet : ¬ Enters strategy registry series day dayStart portfolio) :
      ((∃ position, portfolio.position = some position ∧ position.entryDate = day.date) ↔
          Enters strategy registry series day dayStart portfolio) ∧
        ∀ position, portfolio.position = some position →
          position = bought strategy series day portfolio.equity := by
    rw [free]
    refine ⟨⟨?_, fun enters => absurd enters unmet⟩, ?_⟩
    · rintro ⟨_, impossible, _⟩
      cases impossible
    · intro _ impossible
      cases impossible
  cases outcome with
  | occupied held => cases held.symm.trans free
  | blocked _ barred =>
      apply stays
      intro enters
      have allowed := gate.mpr ⟨enters.rested, enters.withinLimit⟩
      cases barred.symm.trans allowed
  | quiet _ allowed silent =>
      apply stays
      intro enters
      cases silent.symm.trans enters.signalled
  | unfilled _ allowed signalled nothing =>
      apply stays
      intro enters
      have something := newPosition?_eq_some.mpr
        ⟨enters.funded, aligned ▸ enters.priced, rfl⟩
      cases nothing.symm.trans something
  | opened _ allowed signalled filled =>
      obtain ⟨funded, priced, rfl⟩ := newPosition?_eq_some.mp filled
      obtain ⟨rested, withinLimit⟩ := gate.mp allowed
      rw [aligned] at priced ⊢
      have enters : Enters strategy registry series day dayStart portfolio :=
        ⟨rested, withinLimit, signalled, funded, priced⟩
      have holds : (portfolio.holding (bought strategy series day portfolio.equity)).position =
          some (bought strategy series day portfolio.equity) := rfl
      refine ⟨⟨fun _ => enters, fun _ => ⟨_, holds, rfl⟩⟩, ?_⟩
      intro position held
      exact (Option.some.inj (holds.symm.trans held)).symm

/-! ## From the steps of a day to a run -/

theorem ExitOutcome.inOrder (outcome : ExitOutcome strategy registry series day portfolio after)
    (aligned : day.Aligned) (inOrder : ExitsInOrder dates portfolio)
    (latest : ∀ date ∈ dates, date ≤ day.date) : ExitsInOrder (dates ++ [day.date]) after := by
  cases outcome with
  | flat => exact inOrder.later day.date
  | kept => exact inOrder.later day.date
  | @closed position reason => exact inOrder.released latest position aligned

theorem ExitOutcome.spaced {days : Nat}
    (outcome : ExitOutcome strategy registry series day portfolio after)
    (spaced : Spaced days portfolio) : Spaced days after := by
  cases outcome with
  | flat => exact spaced
  | kept => exact spaced
  | closed held => exact spaced.released held rfl

theorem EntryOutcome.inOrder
    (outcome : EntryOutcome strategy registry series day dayStart portfolio after)
    (inOrder : ExitsInOrder dates portfolio) : ExitsInOrder dates after := by
  cases outcome with
  | occupied => exact inOrder
  | blocked => exact inOrder
  | quiet => exact inOrder
  | unfilled => exact inOrder
  | opened => exact ⟨inOrder.exit_dates, inOrder.exits_ordered, inOrder.lastExit_eq⟩

theorem EntryOutcome.spaced
    (outcome : EntryOutcome strategy registry series day dayStart portfolio after)
    (aligned : day.Aligned) (inOrder : ExitsInOrder dates portfolio)
    (cooled : 0 < strategy.risk.cooldownDays)
    (spaced : Spaced strategy.risk.cooldownDays portfolio) :
    Spaced strategy.risk.cooldownDays after := by
  cases outcome with
  | occupied => exact spaced
  | blocked => exact spaced
  | quiet => exact spaced
  | unfilled => exact spaced
  | opened free allowed signalled filled =>
      obtain ⟨_, _, rfl⟩ := newPosition?_eq_some.mp filled
      obtain ⟨rested, _⟩ := (entryBlocked_eq_false inOrder.lastExit_eq).mp allowed
      apply spaced.holding
      intro trade member
      change (strategy.risk.cooldownDays : Int) < day.bar.date.daysSince trade.exitDate
      rw [aligned]
      rcases rested with uncooled | untraded | ⟨last, isLast, apart⟩
      · omega
      · rw [untraded] at member
        cases member
      · have before : trade.exitDate ≤ last.exitDate := inOrder.le_last isLast trade member
        rw [Date.le_iff] at before
        rw [Date.daysSince] at apart ⊢
        change (strategy.risk.cooldownDays : Int) < day.date.day - last.exitDate.day at apart
        omega

/-- A run over days in date order leaves positions in date order and, with a
cooldown, enters at a distance from all earlier exits. -/
theorem simulate_inOrder {initial : α} {days : List (TradingDay α)} {final : Portfolio α}
    (aligned : ∀ day ∈ days, day.Aligned) (ordered : DateOrdered TradingDay.date days)
    (success : simulate strategy registry series (Portfolio.start initial) days = .ok final) :
    ExitsInOrder (days.map TradingDay.date) final ∧
      (0 < strategy.risk.cooldownDays → Spaced strategy.risk.cooldownDays final) := by
  apply simulate_invariant (fun done account =>
    ExitsInOrder (done.map TradingDay.date) account ∧
      (0 < strategy.risk.cooldownDays → Spaced strategy.risk.cooldownDays account))
    ⟨exitsInOrder_start initial, fun _ => spaced_start initial⟩ ?_ success
  rintro done day before after upTo ⟨inOrder, spaced⟩ step
  obtain ⟨afterExit, afterEntry, exited, entered, rfl⟩ := dayStep_eq_ok.mp step
  have dayAligned : day.Aligned := aligned day (upTo.subset (by simp))
  have latest : ∀ date ∈ done.map TradingDay.date, date ≤ day.date := by
    intro date member
    obtain ⟨earlier, isDone, rfl⟩ := List.mem_map.mp member
    have inTurn := List.pairwise_append.mp (List.Pairwise.sublist upTo.sublist ordered)
    exact inTurn.2.2 earlier isDone day (by simp)
  have left := exited.inOrder dayAligned inOrder latest
  rw [List.map_append, List.map_singleton]
  refine ⟨⟨(entered.inOrder left).exit_dates, (entered.inOrder left).exits_ordered,
    (entered.inOrder left).lastExit_eq⟩, ?_⟩
  intro cooled
  have apart := entered.spaced dayAligned left cooled (exited.spaced (spaced cooled))
  exact ⟨apart.trades_spaced, apart.open_spaced⟩

/-- After the exit step of a day the account remembers the date of its last exit. -/
theorem ExitOutcome.remembered {period : Period α} {history : List (Snapshot α)} {initial : α}
    {index : Nat} (outcome : ExitOutcome strategy registry series day portfolio after)
    (found : (tradingDays period history series)[index]? = some day)
    (reached : simulate strategy registry series (Portfolio.start initial)
      ((tradingDays period history series).take index) = .ok portfolio) :
    after.lastExit = after.trades.getLast?.map (·.exitDate) := by
  have aligned : day.Aligned := aligned_of_mem (List.mem_of_getElem? found)
  obtain ⟨inOrder, _⟩ := simulate_inOrder
    (fun other member => aligned_of_mem (List.mem_of_mem_take member))
    (tradingDays_ordered.sublist (List.take_sublist _ _)) reached
  apply (outcome.inOrder aligned inOrder ?_).lastExit_eq
  intro date member
  obtain ⟨other, isDone, rfl⟩ := List.mem_map.mp member
  exact tradingDays_ordered.le_of_mem_take TradingDay.date found other isDone

/-- A day begins with the mark of the day before. -/
theorem simulate_dayStart {initial : α} {days : List (TradingDay α)} {final before : Portfolio α}
    (success : simulate strategy registry series (Portfolio.start initial) days = .ok final)
    {index : Nat} {day : TradingDay α} (found : days[index]? = some day)
    (reached : simulate strategy registry series (Portfolio.start initial) (days.take index) =
      .ok before) :
    before.equity = (ofPortfolio final initial).dayStart initial index := by
  cases index with
  | zero =>
      rw [List.take_zero, simulate_nil, Except.ok.injEq] at reached
      rw [← reached]
      rfl
  | succ previous =>
      obtain ⟨inside, _⟩ := List.getElem?_eq_some_iff.mp found
      have earlier : previous < days.length := Nat.lt_of_succ_lt inside
      obtain ⟨_, marked, _, _, same, _, recorded⟩ :=
        simulate_day success (List.getElem?_eq_getElem earlier)
      cases Except.ok.inj (same.symm.trans reached)
      change before.equity = (final.curve[previous]?.map (·.equity)).getD initial
      rw [recorded]
      rfl

/-- In a run, a day that has no position after its exit step takes one up, dated
that day, exactly if the account has rested, the day is within its loss limit,
the strategy signals an entry, and both the notional and the price are positive;
the loss is counted from the mark of the day before.  With a cooldown every entry
is later than each exit before it by more than the cooldown. -/
theorem run_entries_by_policy (strategy : Strategy α) (period : Period α)
    (history : List (Snapshot α)) (series : PriceSeries α) (registry : Registry α)
    (strategyValid : strategy.validate = .ok ()) (periodValid : period.validate = .ok ()) :
    ∃ result, run strategy period history series registry = .ok result ∧
      (∀ index day, (tradingDays period history series)[index]? = some day →
        ∃ before between after,
          simulate strategy registry series (Portfolio.start period.equity)
            ((tradingDays period history series).take index) = .ok before ∧
          exitStep strategy registry series day before = .ok between ∧
          simulate strategy registry series (Portfolio.start period.equity)
            ((tradingDays period history series).take (index + 1)) = .ok after ∧
          before.equity = result.dayStart period.equity index ∧
          (between = before ∨ between.equity = between.cash) ∧
          between.trades <+: result.trades ∧
          (∀ position, between.position = some position → after.position = some position) ∧
          (between.position = none →
            ((∃ position, after.position = some position ∧ position.entryDate = day.date) ↔
              Enters strategy registry series day (result.dayStart period.equity index)
                between) ∧
            ∀ position, after.position = some position →
              position = bought strategy series day between.equity)) ∧
      (0 < strategy.risk.cooldownDays →
        result.trades.Pairwise (fun first second =>
          (strategy.risk.cooldownDays : Int) < second.entryDate.daysSince first.exitDate) ∧
        ∀ position, result.openPosition = some position → ∀ trade ∈ result.trades,
          (strategy.risk.cooldownDays : Int) < position.entryDate.daysSince trade.exitDate) := by
  obtain ⟨final, simulated, success⟩ :=
    run_complete strategyValid periodValid history series registry
  refine ⟨ofPortfolio final period.equity, success, ?_, ?_⟩
  · intro index day found
    have aligned : day.Aligned := aligned_of_mem (List.mem_of_getElem? found)
    obtain ⟨before, after, earlier, step, reached, kept, _⟩ := simulate_day simulated found
    obtain ⟨between, afterEntry, exited, entered, rfl⟩ := dayStep_eq_ok.mp step
    have began := simulate_dayStart simulated found earlier
    have tradesKept : between.trades <+: final.trades := by
      rw [← entered.trades_eq]
      exact kept
    have remembered := exited.remembered found earlier
    refine ⟨before, between, _, earlier, exitStep_eq_ok.mpr exited, reached, began, ?_,
      tradesKept, ?_, ?_⟩
    · cases exited with
      | flat => exact .inl rfl
      | kept => exact .inl rfl
      | closed => exact .inr rfl
    · intro position held
      rcases entered.position_cases with same | ⟨free, _⟩
      · exact same.trans held
      · cases held.symm.trans free
    · intro free
      rw [← began]
      exact entered.enters_iff aligned remembered free
  · intro cooled
    have spaced := (simulate_inOrder (fun _ => aligned_of_mem) tradingDays_ordered simulated).2
      cooled
    exact ⟨spaced.trades_spaced, spaced.open_spaced⟩

end Backtest

namespace Sample

def fourthDay : Date := { day := 3 }

/-- Buys on all scores of the sample, sells on those above two, and rests for a
day after each exit. -/
def resting : Strategy Rat :=
  { strategy with
    signals := .conditions (.all [.numeric .score (.between 1 4)])
      (.all [.numeric .score (.above 2)])
    risk := { strategy.risk with cooldownDays := 1 } }

def longPeriod : Period Rat := ⟨firstDay, fourthDay, 10000⟩

def longHistory : List (Snapshot Rat) :=
  history ++ [snapshot fourthDay 1]

def longSeries : PriceSeries Rat :=
  .ofBars [bar firstDay 100, bar secondDay 110, bar thirdDay 121, bar fourthDay 120]

def longDays : List (TradingDay Rat) :=
  days ++ [⟨snapshot fourthDay 1, bar fourthDay 120⟩]

theorem resting_valid : resting.validate = .ok () :=
  eq_ok_of_toBool (by decide +kernel)

theorem longPeriod_valid : longPeriod.validate = .ok () :=
  eq_ok_of_toBool (by decide +kernel)

theorem tradingDays_long :
    Backtest.tradingDays longPeriod longHistory longSeries = longDays := by
  have rows : Snapshot.inDateOrder longHistory = [snapshot firstDay 1, snapshot secondDay 3,
      snapshot thirdDay 4, snapshot fourthDay 1] :=
    mergeSort_eq_of_perm Snapshot.date (.swap _ _ _) (by decide)
  have bars : longSeries.bars =
      [bar firstDay 100, bar secondDay 110, bar thirdDay 121, bar fourthDay 120] :=
    mergeSort_eq_of_perm PriceBar.date (.refl _) (by decide)
  unfold Backtest.tradingDays PriceSeries.get?
  rw [rows, bars]
  rfl

end Sample

namespace Backtest

/-- Sold on the second day, the sample does not buy on the third, which is just
within the cooldown, but on the fourth. -/
theorem run_entries_by_policy_resting :
    Sample.resting.validate = .ok () ∧ Sample.longPeriod.validate = .ok () ∧
      ∃ result, run Sample.resting Sample.longPeriod Sample.longHistory Sample.longSeries
          Registry.builtin = .ok result ∧
        result.trades.map (·.exitDate) = [Sample.secondDay] ∧
        Sample.resting.entrySignal Registry.builtin (Sample.snapshot Sample.thirdDay 4) =
          .ok true ∧
        result.openPosition.map (·.entryDate) = some Sample.fourthDay ∧
        ∀ position, result.openPosition = some position → ∀ trade ∈ result.trades,
          1 < position.entryDate.daysSince trade.exitDate := by
  refine ⟨Sample.resting_valid, Sample.longPeriod_valid, ?_⟩
  obtain ⟨result, success, _, spaced⟩ := run_entries_by_policy Sample.resting Sample.longPeriod
    Sample.longHistory Sample.longSeries Registry.builtin Sample.resting_valid
    Sample.longPeriod_valid
  obtain ⟨_, _, final, simulated, rfl⟩ := run_eq_ok.mp success
  have outcome : ((simulate Sample.resting Registry.builtin Sample.longSeries
      (Portfolio.start Sample.longPeriod.equity) Sample.longDays).toOption.all fun account =>
        account.trades.map (·.exitDate) == [Sample.secondDay] &&
          account.position.map (·.entryDate) == some Sample.fourthDay) = true := by
    decide +kernel
  rw [← Sample.tradingDays_long, simulated] at outcome
  simp only [Except.toOption, Option.all_some, Bool.and_eq_true, beq_iff_eq] at outcome
  exact ⟨_, success, outcome.1, rfl, outcome.2, (spaced (by decide)).2⟩

end Backtest

end DailySignals
