import DailySignals.Market.Snapshot

/-!
# Rows in date order

Rows of any kind are sorted by the date each of them carries.  The sort is
stable, so it neither loses a row nor exchanges two rows of one date.  Hence a
list in date order is known once the rows of every single date are known, and
it falls apart into the rows up to a date and the later ones.
-/

set_option autoImplicit false

namespace DailySignals

section DateOrder

variable {β : Type} (dateOf : β → Date)

/-- Rows of which none stands before a row of an earlier date. -/
def DateOrdered (rows : List β) : Prop :=
  rows.Pairwise fun first second => dateOf first ≤ dateOf second

instance (rows : List β) : Decidable (DateOrdered dateOf rows) :=
  inferInstanceAs (Decidable (rows.Pairwise fun first second => dateOf first ≤ dateOf second))

/-- The rows of one date, in their order. -/
def rowsOn (date : Date) (rows : List β) : List β :=
  rows.filter fun row => dateOf row == date

/-- The rows up to a date, in their order. -/
def upTo (last : Date) (rows : List β) : List β :=
  rows.filter fun row => decide (dateOf row ≤ last)

/-- The rows later than a date, in their order. -/
def past (last : Date) (rows : List β) : List β :=
  rows.filter fun row => decide (last < dateOf row)

/-- The comparison that the stable sorts by date use. -/
def notAfter (first second : β) : Bool :=
  decide (dateOf first ≤ dateOf second)

theorem notAfter_trans (first second third : β)
    (left : notAfter dateOf first second = true)
    (right : notAfter dateOf second third = true) :
    notAfter dateOf first third = true := by
  simp only [notAfter, decide_eq_true_eq, Date.le_iff] at *
  omega

theorem notAfter_total (first second : β) :
    (notAfter dateOf first second || notAfter dateOf second first) = true := by
  simp only [notAfter, Bool.or_eq_true, decide_eq_true_eq, Date.le_iff]
  omega

theorem dateOrdered_mergeSort (rows : List β) :
    DateOrdered dateOf (rows.mergeSort (notAfter dateOf)) := by
  have sorted := List.pairwise_mergeSort (notAfter_trans dateOf) (notAfter_total dateOf) rows
  apply sorted.imp
  intro first second before
  simpa only [notAfter, decide_eq_true_eq] using before

theorem mergeSort_of_dateOrdered {rows : List β} (ordered : DateOrdered dateOf rows) :
    rows.mergeSort (notAfter dateOf) = rows := by
  apply List.mergeSort_of_pairwise
  exact ordered.imp fun before => decide_eq_true before

/-- In date order, the rows before an index are not later than the row there. -/
theorem DateOrdered.le_of_mem_take {rows : List β} (ordered : DateOrdered dateOf rows)
    {index : Nat} {row : β} (found : rows[index]? = some row) :
    ∀ earlier ∈ rows.take index, dateOf earlier ≤ dateOf row := by
  have there : row ∈ rows.drop index := by
    apply List.mem_of_getElem? (i := 0)
    rw [List.getElem?_drop, Nat.add_zero]
    exact found
  rw [DateOrdered, ← List.take_append_drop index rows, List.pairwise_append] at ordered
  intro earlier before
  exact ordered.2.2 earlier before row there

/-- Rows in date order of which no two share a date are in strict date order. -/
theorem DateOrdered.increasing {rows : List β} (ordered : DateOrdered dateOf rows)
    (distinct : (rows.map dateOf).Nodup) :
    rows.Pairwise fun first second => dateOf first < dateOf second := by
  rw [List.Nodup, List.pairwise_map] at distinct
  apply List.Pairwise.imp₂ ?_ distinct ordered
  intro first second different before
  rw [Date.le_iff] at before
  rw [Date.lt_iff]
  have apart : (dateOf first).day ≠ (dateOf second).day :=
    fun same => different (Date.eq_of_day_eq same)
  omega

/-- Rows of which no two share a date can be put in date order in one way. -/
theorem mergeSort_eq_of_perm {rows sorted : List β} (same : sorted.Perm rows)
    (increasing : sorted.Pairwise fun first second => dateOf first < dateOf second) :
    rows.mergeSort (notAfter dateOf) = sorted := by
  have perm : (rows.mergeSort (notAfter dateOf)).Perm sorted :=
    (List.mergeSort_perm rows _).trans same.symm
  have distinct : ((rows.mergeSort (notAfter dateOf)).map dateOf).Nodup := by
    rw [(perm.map dateOf).nodup_iff, List.Nodup, List.pairwise_map]
    exact increasing.imp Date.ne_of_lt
  have sortedIncreasing := (dateOrdered_mergeSort dateOf rows).increasing dateOf distinct
  apply perm.eq_of_pairwise ?_ sortedIncreasing increasing
  intro first second _ _ before after
  rw [Date.lt_iff] at before after
  omega

/-- In whatever order rows of distinct dates come, they are put in the same order. -/
theorem mergeSort_congr_of_perm {first second : List β} (same : first.Perm second)
    (distinct : (second.map dateOf).Nodup) :
    first.mergeSort (notAfter dateOf) = second.mergeSort (notAfter dateOf) := by
  have sortedDistinct : ((second.mergeSort (notAfter dateOf)).map dateOf).Nodup :=
    ((List.mergeSort_perm second _).map dateOf).nodup_iff.mpr distinct
  exact mergeSort_eq_of_perm dateOf ((List.mergeSort_perm second _).trans same.symm)
    ((dateOrdered_mergeSort dateOf second).increasing dateOf sortedDistinct)

/-- A sort that puts no row of a date before another of the same date keeps the
rows of one date and their order. -/
theorem rowsOn_mergeSort_of {before : β → β → Bool}
    (transitive : ∀ first second third, before first second = true →
      before second third = true → before first third = true)
    (total : ∀ first second, (before first second || before second first) = true)
    (within : ∀ first second, dateOf first = dateOf second → before first second = true)
    (date : Date) (rows : List β) :
    rowsOn dateOf date (rows.mergeSort before) = rowsOn dateOf date rows := by
  have sameDate : (rowsOn dateOf date rows).Pairwise
      fun first second => before first second = true := by
    apply List.pairwise_of_forall_mem_list
    intro first firstOn second secondOn
    simp only [rowsOn, List.mem_filter, beq_iff_eq] at firstOn secondOn
    exact within first second (firstOn.2.trans secondOn.2.symm)
  have kept : (rowsOn dateOf date rows).Sublist (rows.mergeSort before) :=
    List.sublist_mergeSort transitive total sameDate List.filter_sublist
  have inside : (rowsOn dateOf date rows).Sublist
      (rowsOn dateOf date (rows.mergeSort before)) := by
    have filtered := kept.filter fun row => dateOf row == date
    simpa only [rowsOn, List.filter_filter, Bool.and_self] using filtered
  have sameLength := ((List.mergeSort_perm rows before).filter
    fun row => dateOf row == date).length_eq
  exact (inside.eq_of_length sameLength.symm).symm

theorem notAfter_of_eq {first second : β} (same : dateOf first = dateOf second) :
    notAfter dateOf first second = true := by
  rw [notAfter, decide_eq_true_eq, same]
  exact Int.le_refl _

/-- Sorting keeps the rows of one date and their order. -/
theorem rowsOn_mergeSort (date : Date) (rows : List β) :
    rowsOn dateOf date (rows.mergeSort (notAfter dateOf)) = rowsOn dateOf date rows :=
  rowsOn_mergeSort_of dateOf (notAfter_trans dateOf) (notAfter_total dateOf)
    (fun _ _ => notAfter_of_eq dateOf) date rows

/-- Sorting the other way keeps them, too. -/
theorem rowsOn_mergeSort_descending (date : Date) (rows : List β) :
    rowsOn dateOf date (rows.mergeSort fun first second => notAfter dateOf second first) =
      rowsOn dateOf date rows :=
  rowsOn_mergeSort_of dateOf
    (fun first second third later earlier =>
      notAfter_trans dateOf third second first earlier later)
    (fun first second => notAfter_total dateOf second first)
    (fun _ _ same => notAfter_of_eq dateOf same.symm) date rows

/-- Two lists in date order that hold the same rows on every date are equal. -/
theorem eq_of_rowsOn (first second : List β) (firstOrdered : DateOrdered dateOf first)
    (secondOrdered : DateOrdered dateOf second)
    (same : ∀ date, rowsOn dateOf date first = rowsOn dateOf date second) :
    first = second := by
  induction first generalizing second with
  | nil =>
      cases second with
      | nil => rfl
      | cons row rest =>
          have none_here := same (dateOf row)
          simp [rowsOn] at none_here
  | cons row rest ih =>
      cases second with
      | nil =>
          have none_here := same (dateOf row)
          simp [rowsOn] at none_here
      | cons other others =>
          have earliest := List.pairwise_cons.mp firstOrdered
          have otherEarliest := List.pairwise_cons.mp secondOrdered
          have sameDate : dateOf row = dateOf other := by
            have rowThere : row ∈ rowsOn dateOf (dateOf row) (other :: others) := by
              rw [← same]
              simp [rowsOn]
            have otherHere : other ∈ rowsOn dateOf (dateOf other) (row :: rest) := by
              rw [same]
              simp [rowsOn]
            have otherFirst : dateOf other ≤ dateOf row := by
              rcases List.mem_cons.mp (List.mem_filter.mp rowThere).1 with rfl | member
              · exact Date.le_iff.mpr (Int.le_refl _)
              · exact otherEarliest.1 row member
            have rowFirst : dateOf row ≤ dateOf other := by
              rcases List.mem_cons.mp (List.mem_filter.mp otherHere).1 with rfl | member
              · exact Date.le_iff.mpr (Int.le_refl _)
              · exact earliest.1 other member
            exact Date.eq_of_day_eq (Int.le_antisymm rowFirst otherFirst)
          have heads := same (dateOf row)
          simp only [rowsOn, List.filter_cons, sameDate, BEq.rfl, if_true] at heads
          obtain ⟨rfl, _⟩ := List.cons.inj heads
          have tails : rest = others := by
            apply ih others earliest.2 otherEarliest.2
            intro date
            have here := same date
            simp only [rowsOn, List.filter_cons] at here ⊢
            split at here
            · exact (List.cons.inj here).2
            · exact here
          rw [tails]

/-- Of rows that are kept by their date, those of a date that is kept are all
there. -/
theorem rowsOn_filter (keeps : Date → Bool) {date : Date} (kept : keeps date = true)
    (rows : List β) :
    rowsOn dateOf date (rows.filter fun row => keeps (dateOf row)) =
      rowsOn dateOf date rows := by
  unfold rowsOn
  rw [List.filter_filter]
  apply List.filter_congr
  intro row _
  by_cases onDate : dateOf row = date
  · rw [onDate, kept, Bool.and_true]
  · have differs : (dateOf row == date) = false := by simpa using onDate
    rw [differs, Bool.false_and]

theorem rowsOn_upTo {date last : Date} (before : date ≤ last) (rows : List β) :
    rowsOn dateOf date (upTo dateOf last rows) = rowsOn dateOf date rows :=
  rowsOn_filter dateOf (fun other => decide (other ≤ last)) (decide_eq_true before) rows

theorem rowsOn_upTo_of_later {date last : Date} (later : ¬ date ≤ last) (rows : List β) :
    rowsOn dateOf date (upTo dateOf last rows) = [] := by
  unfold rowsOn upTo
  rw [List.filter_filter, List.filter_eq_nil_iff]
  intro row _ both
  rw [Bool.and_eq_true, beq_iff_eq, decide_eq_true_eq] at both
  exact later (both.1 ▸ both.2)

/-- Two lists in date order that hold the same rows on every date up to one
have the same rows up to it. -/
theorem upTo_eq_of_rowsOn (last : Date) {first second : List β}
    (firstOrdered : DateOrdered dateOf first) (secondOrdered : DateOrdered dateOf second)
    (same : ∀ date ≤ last, rowsOn dateOf date first = rowsOn dateOf date second) :
    upTo dateOf last first = upTo dateOf last second := by
  apply eq_of_rowsOn dateOf _ _ (firstOrdered.filter _) (secondOrdered.filter _)
  intro date
  change rowsOn dateOf date (upTo dateOf last first) = rowsOn dateOf date (upTo dateOf last second)
  by_cases before : date ≤ last
  · rw [rowsOn_upTo dateOf before, rowsOn_upTo dateOf before, same date before]
  · rw [rowsOn_upTo_of_later dateOf before, rowsOn_upTo_of_later dateOf before]

/-- The last row of a date has no row of that date behind it. -/
theorem getLast?_rowsOn_eq_some_iff {rows : List β} {date : Date} {row : β} :
    (rowsOn dateOf date rows).getLast? = some row ↔
      ∃ before after, rows = before ++ row :: after ∧ dateOf row = date ∧
        ∀ later ∈ after, dateOf later ≠ date := by
  rw [rowsOn, List.getLast?_filter, List.find?_eq_some_iff_append]
  constructor
  · rintro ⟨onDate, behind, inFront, parts, others⟩
    refine ⟨inFront.reverse, behind.reverse, ?_, beq_iff_eq.mp onDate, ?_⟩
    · rw [← List.reverse_reverse rows, parts]
      simp
    · intro later member same
      have differs := others later (List.mem_reverse.mp member)
      rw [beq_iff_eq.mpr same] at differs
      cases differs
  · rintro ⟨before, after, rfl, onDate, others⟩
    refine ⟨beq_iff_eq.mpr onDate, after.reverse, before.reverse, by simp, ?_⟩
    intro later member
    rw [Bool.not_eq_true', beq_eq_false_iff_ne]
    exact others later (List.mem_reverse.mp member)

theorem rowsOn_eq_nil_iff {rows : List β} {date : Date} :
    rowsOn dateOf date rows = [] ↔ ∀ row ∈ rows, dateOf row ≠ date := by
  rw [rowsOn, List.filter_eq_nil_iff]
  exact forall₂_congr fun row _ => not_congr beq_iff_eq

theorem mem_upTo {last : Date} {rows : List β} {row : β} :
    row ∈ upTo dateOf last rows ↔ row ∈ rows ∧ dateOf row ≤ last := by
  rw [upTo, List.mem_filter, decide_eq_true_eq]

theorem mem_past {last : Date} {rows : List β} {row : β} :
    row ∈ past dateOf last rows ↔ row ∈ rows ∧ last < dateOf row := by
  rw [past, List.mem_filter, decide_eq_true_eq]

theorem upTo_eq_self {last : Date} {rows : List β} (before : ∀ row ∈ rows, dateOf row ≤ last) :
    upTo dateOf last rows = rows :=
  List.filter_eq_self.mpr fun row member => decide_eq_true (before row member)

theorem upTo_eq_nil {last : Date} {rows : List β} (later : ∀ row ∈ rows, last < dateOf row) :
    upTo dateOf last rows = [] := by
  apply List.filter_eq_nil_iff.mpr
  intro row member
  have after := later row member
  simp only [Date.lt_iff, decide_eq_true_eq, Date.le_iff] at after ⊢
  omega

theorem upTo_append {last : Date} {rows later : List β}
    (before : ∀ row ∈ rows, dateOf row ≤ last) (after : ∀ row ∈ later, last < dateOf row) :
    upTo dateOf last (rows ++ later) = rows := by
  have kept := upTo_eq_self dateOf before
  have dropped := upTo_eq_nil dateOf after
  unfold upTo at kept dropped ⊢
  rw [List.filter_append, kept, dropped, List.append_nil]

/-- Rows in date order are those up to a date, followed by the later ones. -/
theorem upTo_append_past (last : Date) (rows : List β) (ordered : DateOrdered dateOf rows) :
    upTo dateOf last rows ++ past dateOf last rows = rows := by
  induction rows with
  | nil => rfl
  | cons row rest ih =>
      have earliest := List.pairwise_cons.mp ordered
      by_cases before : dateOf row ≤ last
      · have notLater : ¬ last < dateOf row := by
          rw [Date.lt_iff]
          rw [Date.le_iff] at before
          omega
        unfold upTo past at ih ⊢
        simp only [List.filter_cons, before, notLater, decide_true, decide_false, if_true,
          Bool.false_eq_true, if_false, List.cons_append]
        exact congrArg (row :: ·) (ih earliest.2)
      · have later : ∀ other ∈ row :: rest, last < dateOf other := by
          intro other member
          rw [Date.lt_iff]
          rw [Date.le_iff] at before
          rcases List.mem_cons.mp member with rfl | member
          · omega
          · have after := Date.le_iff.mp (earliest.1 other member)
            omega
        have allPast : past dateOf last (row :: rest) = row :: rest :=
          List.filter_eq_self.mpr fun other member => decide_eq_true (later other member)
        rw [upTo_eq_nil dateOf later, allPast, List.nil_append]

end DateOrder

theorem Snapshot.dateOrdered_inDateOrder {α : Type} (rows : List (Snapshot α)) :
    DateOrdered Snapshot.date (Snapshot.inDateOrder rows) :=
  dateOrdered_mergeSort Snapshot.date rows

theorem Snapshot.rowsOn_inDateOrder {α : Type} (date : Date) (rows : List (Snapshot α)) :
    rowsOn Snapshot.date date (Snapshot.inDateOrder rows) = rowsOn Snapshot.date date rows :=
  rowsOn_mergeSort Snapshot.date date rows

end DailySignals
