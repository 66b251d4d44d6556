import DailySignals.Calendar.Date

/-!
# Price bars

The traded prices of one instrument on one day, and the series of all its
bars, which is kept in date order.  Where a date was delivered more than once
the bar delivered last counts.
-/

set_option autoImplicit false

namespace DailySignals

structure PriceBar (α : Type) where
  symbol : String
  date : Date
  opening : α
  high : α
  low : α
  close : α
  volume : Int

namespace PriceBar

variable {α : Type}

/-- Bars by date; those of one date keep their order. -/
def inDateOrder (bars : List (PriceBar α)) : List (PriceBar α) :=
  bars.mergeSort fun first second => decide (first.date ≤ second.date)

theorem inDateOrder_sorted (bars : List (PriceBar α)) :
    (inDateOrder bars).Pairwise fun first second => first.date ≤ second.date := by
  have sorted : (inDateOrder bars).Pairwise fun first second =>
      decide (first.date ≤ second.date) = true :=
    List.pairwise_mergeSort
      (fun a b c ab bc => by
        simp only [decide_eq_true_eq, Date.le_iff] at *
        exact Int.le_trans ab bc)
      (fun a b => by
        simp only [Bool.or_eq_true, decide_eq_true_eq, Date.le_iff]
        exact Int.le_total _ _)
      bars
  simpa using sorted

theorem inDateOrder_perm (bars : List (PriceBar α)) : (inDateOrder bars).Perm bars :=
  List.mergeSort_perm bars _

end PriceBar

/-- The bars of one instrument in date order. -/
structure PriceSeries (α : Type) where
  bars : List (PriceBar α)
  sorted : bars.Pairwise fun first second => first.date ≤ second.date

namespace PriceSeries

variable {α : Type}

def ofBars (bars : List (PriceBar α)) : PriceSeries α :=
  ⟨PriceBar.inDateOrder bars, PriceBar.inDateOrder_sorted bars⟩

/-- The bar that counts on a date. -/
def get? (series : PriceSeries α) (date : Date) : Option (PriceBar α) :=
  series.bars.reverse.find? fun bar => bar.date == date

/-- The bar that counts on the calendar day after a date. -/
def nextDay? (series : PriceSeries α) (date : Date) : Option (PriceBar α) :=
  (date.addDays? 1).bind series.get?

def size (series : PriceSeries α) : Nat :=
  series.bars.length

def isEmpty (series : PriceSeries α) : Bool :=
  series.bars.isEmpty

end PriceSeries

end DailySignals
