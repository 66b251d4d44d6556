import Mathlib.Data.List.Nodup
import Mathlib.Data.List.Perm.Subperm
import DailySignals.Proofs.Backtest.Completion
import DailySignals.Proofs.Screen.Filter
import DailySignals.Proofs.Screen.Order
import DailySignals.Screen.Run
import DailySignals.Store.Memory

/-!
# A screen does not depend on its source

A source may give the rows of a day in any order and more of them than it was
asked for, as long as it gives all that the filter accepts (`Answers`).  The
filter accepts what the screen is after, the screen checks every row itself, and
its order leaves no choice: so it is always the same list that is cut into
pages (`listing`).
-/

set_option autoImplicit false

namespace DailySignals

variable {α : Type} [Arithmetic α]

namespace Screen

/-- An answer to the question for the rows of a date that a filter accepts, from
a source that holds some rows. -/
structure Answers (rows : List (Snapshot α)) (date : Date) (filter : SnapshotFilter α)
    (answer : List (Snapshot α)) : Prop where
  taken : answer.Subperm rows
  complete : ∀ row ∈ rows, row.success = true → row.date = date →
    filter.accepts row = true → row ∈ answer

/-- All that a screen of a date lists of some rows. -/
def listing (date : Date) (set : ConditionSet α) (order : SortOrder)
    (rows : List (Snapshot α)) : List (Snapshot α) :=
  order.sort (rows.filter (matchesOn date set))

variable {rows answer : List (Snapshot α)} {date : Date} {set : ConditionSet α}
  {filter : SnapshotFilter α} {row : Snapshot α}

theorem matchesOn_iff : matchesOn date set row = true ↔
    row.success = true ∧ row.date = date ∧ set.holds .everything row = true := by
  rw [matchesOn, Bool.and_eq_true, Bool.and_eq_true, beq_iff_eq, and_assoc]

theorem mem_listing {order : SortOrder} : row ∈ listing date set order rows ↔
    row ∈ rows ∧ row.success = true ∧ row.date = date ∧ set.holds .everything row = true := by
  rw [listing, (order.sort_perm _).mem_iff, List.mem_filter, matchesOn_iff]

/-- Data held in memory answers with what it was asked for. -/
theorem answers_memory (store : MemoryStore α) (date : Date) (filter : SnapshotFilter α) :
    Answers store.snapshots date filter (store.onDate date filter) where
  taken := List.filter_sublist.subperm
  complete := by
    intro row member _ dated accepted
    apply List.mem_filter.mpr
    rw [dated, accepted, BEq.rfl]
    exact ⟨member, rfl⟩

/-- Of rows with one symbol each, those that match have one each. -/
theorem matching_distinct
    (distinct : ((rows.filter fun row => row.date == date).map (·.symbol)).Nodup) :
    ((rows.filter (matchesOn date set)).map (·.symbol)).Nodup := by
  have narrower : (rows.filter (matchesOn date set)).Sublist
      (rows.filter fun row => row.date == date) := by
    apply List.monotone_filter_right
    intro row matching
    rw [(matchesOn_iff.mp matching).2.1]
    exact BEq.rfl
  exact (narrower.map (·.symbol)).nodup distinct

theorem run_eq_page {source : Source α} {order : SortOrder} {request : PageRequest}
    (valid : set.validate = .ok ())
    (answered : source.onDate date (SnapshotFilter.ofSet set) = .ok answer) :
    run source date set order request =
      .ok (Page.ofList request (listing date set order answer)) := by
  rw [run, valid, answered]
  rfl

variable [LawfulOrder α]

/-- The filter of a set accepts what a screen lists. -/
theorem accepts_of_matchesOn (matching : matchesOn date set row = true) :
    (SnapshotFilter.ofSet set).accepts row = true := by
  obtain ⟨success, _, satisfied⟩ := matchesOn_iff.mp matching
  exact SnapshotFilter.accepts_iff.mpr (SnapshotFilter.accepted_ofSet success satisfied)

/-- What matches of an answer is what matches of all rows. -/
theorem Answers.matching_perm
    (answers : Answers rows date (SnapshotFilter.ofSet set) answer)
    (distinct : ((rows.filter fun row => row.date == date).map (·.symbol)).Nodup) :
    (answer.filter (matchesOn date set)).Perm (rows.filter (matchesOn date set)) := by
  have once : (rows.filter (matchesOn date set)).Nodup :=
    List.Nodup.of_map (·.symbol) (matching_distinct distinct)
  have inside : (rows.filter (matchesOn date set)) ⊆ answer.filter (matchesOn date set) := by
    intro row member
    obtain ⟨held, matching⟩ := List.mem_filter.mp member
    obtain ⟨success, dated, _⟩ := matchesOn_iff.mp matching
    have accepted := accepts_of_matchesOn matching
    exact List.mem_filter.mpr ⟨answers.complete row held success dated accepted, matching⟩
  exact (answers.taken.filter _).antisymm (List.subperm_of_subset once inside)

theorem Answers.listing_eq (order : SortOrder)
    (answers : Answers rows date (SnapshotFilter.ofSet set) answer)
    (distinct : ((rows.filter fun row => row.date == date).map (·.symbol)).Nodup) :
    listing date set order answer = listing date set order rows :=
  order.sort_eq_of_perm (answers.matching_perm distinct) (matching_distinct distinct)

/-- Whatever a source answers, in whatever order and with whatever rows beside
those it was asked for, a screen gives the same page: a slice of the rows of the
date that succeeded and satisfy the set, in the strict order of the screen. -/
theorem run_source_independent (source : Source α) (rows answer : List (Snapshot α))
    (date : Date) (set : ConditionSet α) (order : SortOrder) (request : PageRequest)
    (valid : set.validate = .ok ())
    (distinct : ((rows.filter fun row => row.date == date).map (·.symbol)).Nodup)
    (answered : source.onDate date (SnapshotFilter.ofSet set) = .ok answer)
    (answers : Answers rows date (SnapshotFilter.ofSet set) answer) :
    run source date set order request = .ok
        { rows := ((listing date set order rows).drop request.offset).take
            request.effectiveLimit
          total := (listing date set order rows).length
          hasMore := decide (request.offset + request.effectiveLimit <
            (listing date set order rows).length) } ∧
      (∀ row, row ∈ listing date set order rows ↔
        row ∈ rows ∧ row.success = true ∧ row.date = date ∧
          set.holds .everything row = true) ∧
      order.Increasing (listing date set order rows) := by
  refine ⟨?_, fun _ => mem_listing, order.sort_increasing (matching_distinct distinct)⟩
  rw [run_eq_page valid answered, answers.listing_eq order distinct, Page.ofList,
    List.length_drop]
  have more : request.effectiveLimit <
        (listing date set order rows).length - request.offset ↔
      request.offset + request.effectiveLimit < (listing date set order rows).length := by
    omega
  simp only [more]

end Screen

namespace Sample

/-- A successful row that is known by its symbol, date and score. -/
def rowOf (symbol : String) (date : Date) (score : Rat) : Snapshot Rat :=
  { snapshot date score with symbol := symbol }

def failedRow : Snapshot Rat :=
  { rowOf "DDD" firstDay 9 with success := false }

def held : List (Snapshot Rat) :=
  [rowOf "AAA" firstDay 3, rowOf "BBB" firstDay 5, rowOf "CCC" firstDay 1, failedRow,
    rowOf "AAA" secondDay 7]

/-- A source that answers with more than it is asked for, and backwards. -/
def generous : Source Rat where
  history _ := .ok []
  onDate _ _ := .ok [rowOf "AAA" secondDay 7, failedRow, rowOf "BBB" firstDay 5,
    rowOf "AAA" firstDay 3]
  prices _ := .ok []

def scored : ConditionSet Rat :=
  .all [.numeric .score (.atLeast 2)]

theorem scored_valid : scored.validate = .ok () :=
  eq_ok_of_toBool (by decide +kernel)

theorem generous_answers : Screen.Answers held firstDay (SnapshotFilter.ofSet scored)
    [rowOf "AAA" secondDay 7, failedRow, rowOf "BBB" firstDay 5, rowOf "AAA" firstDay 3] where
  taken := by
    refine ⟨[rowOf "AAA" firstDay 3, rowOf "BBB" firstDay 5, failedRow, rowOf "AAA" secondDay 7],
      (List.reverse_perm _).symm, ?_⟩
    exact .cons_cons _ (.cons_cons _ (.cons _ (.cons_cons _ (.cons_cons _ .slnil))))
  complete := by
    intro row member _ dated accepted
    simp only [held, List.mem_cons, List.not_mem_nil, or_false] at member
    rcases member with rfl | rfl | rfl | rfl | rfl
    · simp
    · simp
    · have refused : (SnapshotFilter.ofSet scored).accepts (rowOf "CCC" firstDay 1) = false := by
        decide +kernel
      cases refused.symm.trans accepted
    · simp
    · simp

theorem listing_held : Screen.listing firstDay scored .default held =
    [rowOf "BBB" firstDay 5, rowOf "AAA" firstDay 3] := by
  have matching : held.filter (Screen.matchesOn firstDay scored) =
      [rowOf "AAA" firstDay 3, rowOf "BBB" firstDay 5] := rfl
  rw [Screen.listing, matching]
  apply SortOrder.sort_eq_of_increasing (by decide +kernel) (.swap _ _ _)
  unfold SortOrder.Increasing
  decide +kernel

end Sample

namespace Screen

/-- A failed row, one of another day and the wrong order do no harm. -/
theorem run_source_independent_generous :
    Sample.scored.validate = .ok () ∧
      Answers Sample.held Sample.firstDay (SnapshotFilter.ofSet Sample.scored)
        [Sample.rowOf "AAA" Sample.secondDay 7, Sample.failedRow,
          Sample.rowOf "BBB" Sample.firstDay 5, Sample.rowOf "AAA" Sample.firstDay 3] ∧
      run Sample.generous Sample.firstDay Sample.scored .default ⟨0, 0⟩ =
        .ok ⟨[Sample.rowOf "BBB" Sample.firstDay 5, Sample.rowOf "AAA" Sample.firstDay 3],
          2, false⟩ := by
  refine ⟨Sample.scored_valid, Sample.generous_answers, ?_⟩
  obtain ⟨page, _, _⟩ := run_source_independent Sample.generous Sample.held _ Sample.firstDay
    Sample.scored .default ⟨0, 0⟩ Sample.scored_valid (by decide +kernel) rfl
    Sample.generous_answers
  rw [page, Sample.listing_held]
  rfl

end Screen

end DailySignals
