import DailySignals.Proofs.Backtest.Day
import DailySignals.Proofs.DateOrder

/-!
# From one day to a run

A run succeeds exactly if its strategy and period are valid and every one of its
trading days succeeds.  What the start has and each day keeps holds after every
run (`simulate_invariant`).  A run goes through its days one by one, so a day
adds one equity point and at most one trade, and none is ever taken back.
-/

set_option autoImplicit false

namespace DailySignals

variable {α : Type}

namespace PriceSeries

theorem date_of_get? {series : PriceSeries α} {date : Date} {bar : PriceBar α}
    (found : series.get? date = some bar) : bar.date = date := by
  have matched := List.find?_some found
  simpa only [beq_iff_eq] using matched

end PriceSeries

namespace TradingDay

def date (day : TradingDay α) : Date :=
  day.snapshot.date

/-- A trading day whose bar is the bar of its own date. -/
def Aligned (day : TradingDay α) : Prop :=
  day.bar.date = day.date

end TradingDay

namespace Backtest

/-- Whether the day of a snapshot is simulated. -/
def isTraded (period : Period α) (series : PriceSeries α) (snapshot : Snapshot α) : Bool :=
  period.contains snapshot.date && (series.get? snapshot.date).isSome

/-! ## The trading days of a period -/

section Days

variable {period : Period α} {history : List (Snapshot α)} {series : PriceSeries α}

theorem mem_tradingDays {day : TradingDay α} :
    day ∈ tradingDays period history series ↔
      day.snapshot ∈ history ∧ period.contains day.date = true ∧
        series.get? day.date = some day.bar := by
  unfold tradingDays Snapshot.inDateOrder
  rw [List.mem_filterMap]
  constructor
  · rintro ⟨snapshot, member, chosen⟩
    split at chosen
    · rename_i inside
      obtain ⟨bar, found, rfl⟩ := Option.map_eq_some_iff.mp chosen
      exact ⟨List.mem_mergeSort.mp member, inside, found⟩
    · cases chosen
  · rintro ⟨member, inside, found⟩
    refine ⟨day.snapshot, List.mem_mergeSort.mpr member, ?_⟩
    rw [TradingDay.date] at inside found
    rw [if_pos inside, found]
    rfl

theorem aligned_of_mem {day : TradingDay α} (member : day ∈ tradingDays period history series) :
    day.Aligned :=
  PriceSeries.date_of_get? (mem_tradingDays.mp member).2.2

/-- The snapshots of the trading days are the traded snapshots in date order. -/
theorem tradingDays_snapshots :
    (tradingDays period history series).map (·.snapshot) =
      (Snapshot.inDateOrder history).filter (isTraded period series) := by
  have choice : (fun snapshot : Snapshot α => Option.map (fun day => day.snapshot)
      (if period.contains snapshot.date = true then
        (series.get? snapshot.date).map fun bar => (⟨snapshot, bar⟩ : TradingDay α)
      else none)) = Option.guard (isTraded period series) := by
    funext snapshot
    by_cases inside : period.contains snapshot.date = true
    · cases found : series.get? snapshot.date with
      | none => simp [Option.guard, isTraded, inside, found]
      | some bar => simp [Option.guard, isTraded, inside, found]
    · simp [Option.guard, isTraded, inside]
  unfold tradingDays
  rw [List.map_filterMap, choice, List.filterMap_eq_filter]

theorem tradingDays_ordered :
    DateOrdered TradingDay.date (tradingDays period history series) := by
  have traded := (Snapshot.dateOrdered_inDateOrder history).filter (isTraded period series)
  rw [← tradingDays_snapshots, List.pairwise_map] at traded
  exact traded

theorem tradingDays_dates :
    (tradingDays period history series).map TradingDay.date =
      ((Snapshot.inDateOrder history).filter (isTraded period series)).map (·.date) := by
  rw [← tradingDays_snapshots, List.map_map]
  rfl

/-- The dates of the trading days, in whatever order the history came. -/
theorem tradingDays_dates_perm :
    ((tradingDays period history series).map TradingDay.date).Perm
      ((history.filter (isTraded period series)).map (·.date)) := by
  rw [tradingDays_dates]
  exact ((List.mergeSort_perm history (notAfter Snapshot.date)).filter
    (isTraded period series)).map Snapshot.date

/-- Days one after another, each of its own date. -/
def Increasing (days : List (TradingDay α)) : Prop :=
  days.Pairwise fun first second => first.date < second.date

/-- The trading days are of distinct dates exactly if the traded snapshots are. -/
theorem tradingDays_increasing_iff :
    Increasing (tradingDays period history series) ↔
      ((history.filter (isTraded period series)).map (·.date)).Nodup := by
  rw [← tradingDays_dates_perm.nodup_iff]
  constructor
  · intro increasing
    exact List.pairwise_map.mpr (increasing.imp Date.ne_of_lt)
  · intro distinct
    exact tradingDays_ordered.increasing TradingDay.date distinct

/-- What holds of the date of every day holds of equity points of these dates. -/
theorem forall_points_of_days {points : List (EquityPoint α)} {days : List (TradingDay α)}
    (holds : Date → Prop) (dates : points.map (·.date) = days.map TradingDay.date)
    (onDays : ∀ day ∈ days, holds day.date) : ∀ point ∈ points, holds point.date := by
  have onDates : ∀ date ∈ days.map TradingDay.date, holds date := List.forall_mem_map.mpr onDays
  rw [← dates] at onDates
  exact List.forall_mem_map.mp onDates

end Days

/-! ## Runs -/

variable [Arithmetic α] {strategy : Strategy α} {registry : Registry α} {series : PriceSeries α}

theorem simulate_nil (portfolio : Portfolio α) :
    simulate strategy registry series portfolio [] = .ok portfolio :=
  rfl

theorem simulate_cons_eq_ok {portfolio final : Portfolio α} {day : TradingDay α}
    {rest : List (TradingDay α)} :
    simulate strategy registry series portfolio (day :: rest) = .ok final ↔
      ∃ next, dayStep strategy registry series portfolio day = .ok next ∧
        simulate strategy registry series next rest = .ok final := by
  unfold simulate
  rw [List.foldlM_cons, bind_eq_ok]

theorem simulate_append_eq_ok {portfolio final : Portfolio α}
    {earlier later : List (TradingDay α)} :
    simulate strategy registry series portfolio (earlier ++ later) = .ok final ↔
      ∃ middle, simulate strategy registry series portfolio earlier = .ok middle ∧
        simulate strategy registry series middle later = .ok final := by
  unfold simulate
  rw [List.foldlM_append, bind_eq_ok]

theorem simulate_concat_eq_ok {portfolio final : Portfolio α} {done : List (TradingDay α)}
    {day : TradingDay α} :
    simulate strategy registry series portfolio (done ++ [day]) = .ok final ↔
      ∃ before, simulate strategy registry series portfolio done = .ok before ∧
        dayStep strategy registry series before day = .ok final := by
  rw [simulate_append_eq_ok]
  simp only [simulate_cons_eq_ok, simulate_nil, Except.ok.injEq, exists_eq_right]

/-- What holds at the start and is kept by every day holds after the run.  The
statement may speak of the days that are already done. -/
theorem simulate_invariant {portfolio final : Portfolio α} {days : List (TradingDay α)}
    (holds : List (TradingDay α) → Portfolio α → Prop) (initially : holds [] portfolio)
    (kept : ∀ done day before after, done ++ [day] <+: days → holds done before →
      dayStep strategy registry series before day = .ok after → holds (done ++ [day]) after)
    (success : simulate strategy registry series portfolio days = .ok final) :
    holds days final := by
  have onward : ∀ rest done before, done ++ rest = days → holds done before →
      simulate strategy registry series before rest = .ok final → holds days final := by
    intro rest
    induction rest with
    | nil =>
        intro done before whole reached finished
        rw [simulate_nil, Except.ok.injEq] at finished
        rw [List.append_nil] at whole
        subst whole finished
        exact reached
    | cons day rest ih =>
        intro done before whole reached finished
        obtain ⟨next, step, later⟩ := simulate_cons_eq_ok.mp finished
        have whole' : (done ++ [day]) ++ rest = days := by
          rw [List.append_assoc]
          exact whole
        exact ih (done ++ [day]) next whole'
          (kept done day before next ⟨rest, whole'⟩ reached step) later
  exact onward days [] portfolio rfl initially success

/-- A run adds one equity point for each of its days, in their order. -/
theorem simulate_curve_dates {portfolio final : Portfolio α} {days : List (TradingDay α)}
    (success : simulate strategy registry series portfolio days = .ok final) :
    final.curve.map (·.date) = portfolio.curve.map (·.date) ++ days.map TradingDay.date := by
  apply simulate_invariant (fun done account =>
    account.curve.map (·.date) = portfolio.curve.map (·.date) ++ done.map TradingDay.date)
    (by simp) ?_ success
  intro done day before after _ reached step
  rw [dayStep_curve step, List.map_append, reached, List.map_append, List.append_assoc]
  rfl

theorem simulate_curve_length {initial : α} {final : Portfolio α} {days : List (TradingDay α)}
    (success : simulate strategy registry series (Portfolio.start initial) days = .ok final) :
    final.curve.length = days.length := by
  have dates := congrArg List.length (simulate_curve_dates success)
  simpa [Portfolio.start] using dates

theorem simulate_curve_increasing_iff {initial : α} {final : Portfolio α}
    {days : List (TradingDay α)}
    (success : simulate strategy registry series (Portfolio.start initial) days = .ok final) :
    final.curve.Pairwise (fun first second => first.date < second.date) ↔ Increasing days := by
  have dates : final.curve.map (·.date) = days.map TradingDay.date :=
    simulate_curve_dates success
  rw [← List.pairwise_map (R := fun first second : Date => first < second), dates,
    List.pairwise_map]
  rfl

theorem simulate_curve_prefix {portfolio final : Portfolio α} {days : List (TradingDay α)}
    (success : simulate strategy registry series portfolio days = .ok final) :
    portfolio.curve <+: final.curve := by
  apply simulate_invariant (fun _ account => portfolio.curve <+: account.curve)
    (List.prefix_refl _) ?_ success
  intro done day before after _ reached step
  rw [dayStep_curve step]
  exact reached.trans (List.prefix_append _ _)

/-- The trades that a run adds close on its days. -/
theorem simulate_trades {portfolio final : Portfolio α} {days : List (TradingDay α)}
    (success : simulate strategy registry series portfolio days = .ok final) :
    ∃ added, final.trades = portfolio.trades ++ added ∧
      ∀ trade ∈ added, ∃ day ∈ days, trade.exitDate = day.bar.date := by
  apply simulate_invariant (fun done (account : Portfolio α) => ∃ added : List (Trade α),
    account.trades = portfolio.trades ++ added ∧
      ∀ trade ∈ added, ∃ day ∈ done, trade.exitDate = day.bar.date)
    ⟨[], by simp, by simp⟩ ?_ success
  rintro done day before after _ ⟨added, reached, dated⟩ step
  have onEarlierDay : ∀ trade ∈ added, ∃ other ∈ done ++ [day],
      trade.exitDate = other.bar.date := by
    intro trade member
    obtain ⟨other, otherDone, same⟩ := dated trade member
    exact ⟨other, List.mem_append_left _ otherDone, same⟩
  rcases dayStep_trades step with unchanged | ⟨position, reason, closed⟩
  · exact ⟨added, unchanged.trans reached, onEarlierDay⟩
  · refine ⟨added ++ [closingTrade strategy series day.bar position reason], ?_, ?_⟩
    · rw [closed, reached, List.append_assoc]
    · intro trade member
      rcases List.mem_append.mp member with earlier | new
      · exact onEarlierDay trade earlier
      · rw [List.mem_singleton] at new
        subst new
        exact ⟨day, by simp, rfl⟩

theorem simulate_trades_prefix {portfolio final : Portfolio α} {days : List (TradingDay α)}
    (success : simulate strategy registry series portfolio days = .ok final) :
    portfolio.trades <+: final.trades := by
  obtain ⟨added, whole, _⟩ := simulate_trades success
  exact ⟨added, whole.symm⟩

/-- The day at an index of a run: the account it found, the account it left,
and the equity point that the run keeps of it. -/
theorem simulate_day {initial : α} {final : Portfolio α} {days : List (TradingDay α)}
    (success : simulate strategy registry series (Portfolio.start initial) days = .ok final)
    {index : Nat} {day : TradingDay α} (found : days[index]? = some day) :
    ∃ before after,
      simulate strategy registry series (Portfolio.start initial) (days.take index) =
        .ok before ∧
      dayStep strategy registry series before day = .ok after ∧
      simulate strategy registry series (Portfolio.start initial) (days.take (index + 1)) =
        .ok after ∧
      after.trades <+: final.trades ∧
      final.curve[index]? = some ⟨day.date, after.equity⟩ := by
  obtain ⟨inside, _⟩ := List.getElem?_eq_some_iff.mp found
  have upTo : days.take (index + 1) = days.take index ++ [day] := by
    rw [List.take_add_one, found, Option.toList_some]
  rw [← List.take_append_drop (index + 1) days] at success
  obtain ⟨after, reached, later⟩ := simulate_append_eq_ok.mp success
  obtain ⟨before, earlier, step⟩ := simulate_concat_eq_ok.mp (upTo ▸ reached)
  refine ⟨before, after, earlier, step, reached, simulate_trades_prefix later, ?_⟩
  have pointsBefore : before.curve.length = index := by
    rw [simulate_curve_length earlier, List.length_take]
    omega
  obtain ⟨pointsAfter, whole⟩ := simulate_curve_prefix later
  rw [← whole, dayStep_curve step, List.append_assoc, ← pointsBefore]
  simp only [List.singleton_append, List.getElem?_append_right, Nat.le_refl,
    Nat.sub_self, List.getElem?_cons_zero]
  rfl

/-- A run that succeeds is a simulation of valid settings. -/
theorem run_eq_ok {period : Period α} {history : List (Snapshot α)} {result : Backtest α} :
    run strategy period history series registry = .ok result ↔
      strategy.validate = .ok () ∧ period.validate = .ok () ∧
        ∃ final, simulate strategy registry series (Portfolio.start period.equity)
            (tradingDays period history series) = .ok final ∧
          ofPortfolio final period.equity = result := by
  simp only [run, bind_eq_ok, mapError_eq_ok, pure_eq_ok]
  constructor
  · rintro ⟨_, strategyValid, _, periodValid, final, simulated, whole⟩
    exact ⟨strategyValid, periodValid, final, simulated, whole⟩
  · rintro ⟨strategyValid, periodValid, final, simulated, whole⟩
    exact ⟨(), strategyValid, (), periodValid, final, simulated, whole⟩

end Backtest

end DailySignals
