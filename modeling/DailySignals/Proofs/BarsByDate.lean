import Mathlib.Data.List.Induction
import DailySignals.Proofs.Backtest.Loading

/-!
# Bars by date

A series keeps its bars in date order and gives for a date the last bar that was
delivered for it.  An index of places by date, into which the bars are entered in
turn, leads to the same bar: the sort keeps the order within a date, and a later
entry takes over an earlier one.  A source asked for the bar of a date looks through
the same bars from the front and gives the first one, so the two part where a date
was delivered more than once.
-/

set_option autoImplicit false

namespace DailySignals

instance : Hashable Date where
  hash date := hash date.day

section Places

variable {β : Type} (dateOf : β → Date)

/-- The place of a row for each date.  The rows are entered in turn, and a row takes
over the entry of an earlier one of its date. -/
def placesOf (rows : List β) : Std.HashMap Date Nat :=
  rows.zipIdx.foldl (fun places entry => places.insert (dateOf entry.1) entry.2) ∅

theorem placesOf_concat (rows : List β) (row : β) :
    placesOf dateOf (rows ++ [row]) =
      (placesOf dateOf rows).insert (dateOf row) rows.length := by
  rw [placesOf, List.zipIdx_append, List.foldl_append, Nat.zero_add]
  rfl

theorem lt_length_of_placesOf {rows : List β} {date : Date} {place : Nat}
    (found : (placesOf dateOf rows)[date]? = some place) : place < rows.length := by
  induction rows using List.reverseRecOn with
  | nil => simp [placesOf] at found
  | append_singleton rows row ih =>
      rw [placesOf_concat, Std.HashMap.getElem?_insert] at found
      rw [List.length_append, List.length_singleton]
      split at found
      · cases found
        exact Nat.lt_succ_self _
      · exact Nat.lt_succ_of_lt (ih found)

/-- The place entered for a date is that of its last row. -/
theorem getElem?_placesOf (rows : List β) (date : Date) :
    (placesOf dateOf rows)[date]?.bind (rows[·]?) = (rowsOn dateOf date rows).getLast? := by
  induction rows using List.reverseRecOn with
  | nil => simp [placesOf, rowsOn]
  | append_singleton rows row ih =>
      rw [placesOf_concat, Std.HashMap.getElem?_insert, rowsOn, List.filter_append]
      by_cases same : dateOf row = date
      · have onDate : (dateOf row == date) = true := beq_iff_eq.mpr same
        simp [onDate]
      · have differs : (dateOf row == date) = false := beq_eq_false_iff_ne.mpr same
        simp only [differs, Bool.false_eq_true, if_false, List.filter_cons, List.filter_nil,
          List.append_nil]
        rw [← rowsOn, ← ih]
        cases found : (placesOf dateOf rows)[date]? with
        | none => rfl
        | some place => exact List.getElem?_append_left (lt_length_of_placesOf dateOf found)

end Places

namespace PriceSeries

variable {α : Type}

/-- The bar that counts on a date is also found by its place. -/
theorem get?_eq_placesOf (series : PriceSeries α) (date : Date) :
    series.get? date =
      (placesOf PriceBar.date series.bars)[date]?.bind (series.bars[·]?) := by
  rw [getElem?_placesOf, rowsOn, List.getLast?_filter]
  rfl

theorem nextDay?_of_follows (series : PriceSeries α) {date next : Date}
    (follows : next.day = date.day + 1) : series.nextDay? date = series.get? next := by
  rw [nextDay?, Date.addDays?_of_day_eq follows, Option.bind_some]

/-- A series made of bars has all of them in date order, those of one date as they
came.  For a date it gives, directly and by its index of places, the last bar of the
date that came, and none only if there is none.  The bar of the next day is that of
the calendar day that follows; the last day of the calendar has none. -/
theorem ofBars_lookup (bars : List (PriceBar α)) :
    (ofBars bars).bars.Perm bars ∧
      DateOrdered PriceBar.date (ofBars bars).bars ∧
      (∀ date, rowsOn PriceBar.date date (ofBars bars).bars =
        rowsOn PriceBar.date date bars) ∧
      (∀ date, (ofBars bars).get? date =
        (placesOf PriceBar.date (ofBars bars).bars)[date]?.bind ((ofBars bars).bars[·]?)) ∧
      (∀ date bar, (ofBars bars).get? date = some bar ↔
        ∃ before after, bars = before ++ bar :: after ∧ bar.date = date ∧
          ∀ later ∈ after, later.date ≠ date) ∧
      (∀ date, (ofBars bars).get? date = none ↔ ∀ bar ∈ bars, bar.date ≠ date) ∧
      (∀ date next : Date, next.day = date.day + 1 →
        (ofBars bars).nextDay? date = (ofBars bars).get? next) ∧
      (ofBars bars).nextDay? Date.last = none := by
  refine ⟨PriceBar.inDateOrder_perm bars, PriceBar.inDateOrder_sorted bars,
    fun date => PriceBar.rowsOn_inDateOrder date bars, (ofBars bars).get?_eq_placesOf,
    ?_, ?_, fun _ _ => (ofBars bars).nextDay?_of_follows, rfl⟩
  · intro date bar
    rw [get?_ofBars]
    exact getLast?_rowsOn_eq_some_iff PriceBar.date
  · intro date
    rw [get?_ofBars, List.getLast?_eq_none_iff]
    exact rowsOn_eq_nil_iff PriceBar.date

/-- The bar of a day that was delivered before and after that of the day in front of it:
the second delivery counts, also as the bar of the next day. -/
theorem ofBars_lookup_redelivered :
    let bars := [Sample.bar Sample.secondDay 110, Sample.bar Sample.firstDay 100,
      Sample.bar Sample.secondDay 112]
    (ofBars bars).get? Sample.secondDay = some (Sample.bar Sample.secondDay 112) ∧
      (ofBars bars).nextDay? Sample.firstDay = some (Sample.bar Sample.secondDay 112) ∧
      (ofBars bars).get? Sample.thirdDay = none := by
  intro bars
  obtain ⟨_, _, _, _, last, absent, next, _⟩ := ofBars_lookup bars
  have counts : (ofBars bars).get? Sample.secondDay = some (Sample.bar Sample.secondDay 112) :=
    (last _ _).mpr ⟨bars.take 2, [], rfl, rfl, by simp⟩
  refine ⟨counts, ?_, (absent _).mpr (by decide)⟩
  rw [next Sample.firstDay Sample.secondDay rfl, counts]

end PriceSeries

namespace MemoryStore

variable {α : Type} (store : MemoryStore α)

/-- Both look-ups read the bars that are held of a symbol and a date. -/
theorem rowsOn_prices (symbol : String) (date : Date) :
    rowsOn PriceBar.date date (store.prices symbol) =
      rowsOn PriceBar.date date (store.barsOf symbol) :=
  PriceBar.rowsOn_inDateOrder date _

variable [Arithmetic α]

theorem priceOn_eq (symbol : String) (date : Date) :
    store.source.priceOn symbol date =
      .ok (rowsOn PriceBar.date date (store.barsOf symbol)).head? := by
  rw [← rowsOn_prices, rowsOn, List.head?_filter]
  rfl

/-- The bar that a store gives for a date is the first one it holds of the date, and
a series of its bars gives the last one.  They are the same bar, or none, exactly if
the first and the last one are. -/
theorem priceOn_agrees_iff (symbol : String) (date : Date) :
    let held := rowsOn PriceBar.date date (store.barsOf symbol)
    let series := PriceSeries.ofBars (store.prices symbol)
    store.source.priceOn symbol date = .ok held.head? ∧
      series.get? date = held.getLast? ∧
      (store.source.priceOn symbol date = .ok (series.get? date) ↔
        held.head? = held.getLast?) := by
  intro held series
  have first := store.priceOn_eq symbol date
  have last : series.get? date = held.getLast? := by
    rw [PriceSeries.get?_ofBars, rowsOn_prices]
  refine ⟨first, last, ?_⟩
  rw [first, last]
  exact ⟨Except.ok.inj, congrArg Except.ok⟩

end MemoryStore

namespace Sample

/-- A day whose bar was delivered again with another price. -/
def redelivered : MemoryStore Rat :=
  ⟨[], [bar firstDay 100, bar firstDay 101]⟩

end Sample

namespace MemoryStore

/-- Where a bar was delivered again, the store gives the old price of the day and a
series of its bars the new one. -/
theorem redelivered_bar_missed :
    Sample.redelivered.source.priceOn "XYZ" Sample.firstDay =
        .ok (some (Sample.bar Sample.firstDay 100)) ∧
      (PriceSeries.ofBars (Sample.redelivered.prices "XYZ")).get? Sample.firstDay =
        some (Sample.bar Sample.firstDay 101) ∧
      Sample.redelivered.source.priceOn "XYZ" Sample.firstDay ≠
        .ok ((PriceSeries.ofBars (Sample.redelivered.prices "XYZ")).get? Sample.firstDay) := by
  have first : Sample.redelivered.source.priceOn "XYZ" Sample.firstDay =
      .ok (some (Sample.bar Sample.firstDay 100)) := priceOn_eq _ _ _
  have last : (PriceSeries.ofBars (Sample.redelivered.prices "XYZ")).get? Sample.firstDay =
      some (Sample.bar Sample.firstDay 101) := by
    rw [PriceSeries.get?_ofBars, rowsOn_prices]
    rfl
  refine ⟨first, last, ?_⟩
  rw [first, last]
  intro same
  have closes := congrArg PriceBar.close (Option.some.inj (Except.ok.inj same))
  exact absurd closes (by decide)

end MemoryStore

end DailySignals
