import DailySignals.Proofs.DateOrder
import DailySignals.Proofs.Screen.Listing
import DailySignals.Store.Files

/-!
# Streaks

A streak looks at the most recent successful rows of a symbol up to a day.  How
recent a row is shows in the number of later ones, so nothing here depends on
the order in which a source gives its rows.  A set with conditions is asked of
these rows as a screen asks it.  A set without conditions is not: a screen reads
it as everything, a streak of two days or more as nothing.
-/

set_option autoImplicit false

namespace DailySignals

section Recent

variable {β : Type} (dateOf : β → Date)

theorem past_cons_of_not_lt {last : Date} {row : β} (notLater : ¬ last < dateOf row)
    (rows : List β) : past dateOf last (row :: rows) = past dateOf last rows := by
  unfold past
  rw [List.filter_cons_of_neg]
  simpa using notLater

theorem past_length_lt {rows : List β} {row : β} (member : row ∈ rows) :
    (past dateOf (dateOf row) rows).length < rows.length := by
  unfold past
  rw [List.length_filter_lt_length_iff_exists]
  refine ⟨row, member, ?_⟩
  simp [Date.lt_iff]

/-- Of rows in strict date order, the last ones are those with few later ones. -/
theorem mem_drop_iff_past {rows : List β}
    (increasing : rows.Pairwise fun first second => dateOf first < dateOf second)
    (count : Nat) (row : β) :
    row ∈ rows.drop (rows.length - count) ↔
      row ∈ rows ∧ (past dateOf (dateOf row) rows).length < count := by
  induction rows with
  | nil => simp
  | cons first rest ih =>
      obtain ⟨earliest, increasing⟩ := List.pairwise_cons.mp increasing
      by_cases few : (first :: rest).length ≤ count
      · rw [Nat.sub_eq_zero_of_le few, List.drop_zero]
        constructor
        · intro member
          exact ⟨member, Nat.lt_of_lt_of_le (past_length_lt dateOf member) few⟩
        · exact fun recent => recent.1
      · rw [List.length_cons] at few
        have shorter : (first :: rest).length - count = rest.length - count + 1 := by
          rw [List.length_cons]
          omega
        rw [shorter, List.drop_succ_cons, ih increasing]
        constructor
        · rintro ⟨member, recent⟩
          have notLater : ¬ dateOf row < dateOf first := by
            have before := earliest row member
            rw [Date.lt_iff] at before ⊢
            omega
          rw [past_cons_of_not_lt dateOf notLater]
          exact ⟨List.mem_cons_of_mem _ member, recent⟩
        · rintro ⟨member, recent⟩
          rcases List.mem_cons.mp member with rfl | member
          · -- all others are later than the first row, and they are too many
            have allLater : past dateOf (dateOf row) rest = rest :=
              List.filter_eq_self.mpr fun other there => decide_eq_true (earliest other there)
            have notLater : ¬ dateOf row < dateOf row := by
              rw [Date.lt_iff]
              omega
            rw [past_cons_of_not_lt dateOf notLater, allLater] at recent
            omega
          · have notLater : ¬ dateOf row < dateOf first := by
              have before := earliest row member
              rw [Date.lt_iff] at before ⊢
              omega
            rw [past_cons_of_not_lt dateOf notLater] at recent
            exact ⟨member, recent⟩

end Recent

namespace ConditionSet

variable {α : Type}

/-- The successful rows of a history up to a date. -/
def successfulUpTo (history : List (Snapshot α)) (date : Date) : List (Snapshot α) :=
  history.filter fun row => row.success && decide (row.date ≤ date)

theorem mem_successfulUpTo {history : List (Snapshot α)} {date : Date} {row : Snapshot α} :
    row ∈ successfulUpTo history date ↔
      row ∈ history ∧ row.success = true ∧ row.date ≤ date := by
  rw [successfulUpTo, List.mem_filter, Bool.and_eq_true, decide_eq_true_eq]

theorem upTo_perm (history : List (Snapshot α)) (date : Date) :
    (upTo history date).Perm (successfulUpTo history date) :=
  List.mergeSort_perm _ _

theorem upTo_increasing {history : List (Snapshot α)} {date : Date}
    (distinct : ((successfulUpTo history date).map (·.date)).Nodup) :
    (upTo history date).Pairwise fun first second => first.date < second.date := by
  apply DateOrdered.increasing Snapshot.date (Snapshot.dateOrdered_inDateOrder _)
  exact ((upTo_perm history date).map (·.date)).nodup_iff.mpr distinct

/-- In date order, the last row is of the latest date there is. -/
theorem getLast_upTo_iff (history : List (Snapshot α)) (date : Date) :
    ((upTo history date).getLast?.map (·.date) == some date) = true ↔
      ∃ row ∈ successfulUpTo history date, row.date = date := by
  have same := upTo_perm history date
  have ordered : DateOrdered Snapshot.date (upTo history date) :=
    Snapshot.dateOrdered_inDateOrder _
  rw [beq_iff_eq, Option.map_eq_some_iff]
  constructor
  · rintro ⟨row, last, dated⟩
    exact ⟨row, same.mem_iff.mp (List.mem_of_getLast? last), dated⟩
  · rintro ⟨row, member, dated⟩
    have there : row ∈ upTo history date := same.mem_iff.mpr member
    obtain ⟨earlier, last, split⟩ :=
      List.eq_nil_or_concat (upTo history date) |>.resolve_left (List.ne_nil_of_mem there)
    rw [List.concat_eq_append] at split
    rw [split] at there ordered ⊢
    have bounded : last.date ≤ date :=
      (mem_successfulUpTo.mp (same.mem_iff.mp (split ▸ by simp))).2.2
    refine ⟨last, by simp, ?_⟩
    rcases List.mem_append.mp there with before | here
    · have notAfter := (List.pairwise_append.mp ordered).2.2 row before last (by simp)
      rw [Date.le_iff] at notAfter bounded
      apply Date.eq_of_day_eq
      rw [dated] at notAfter
      omega
    · rw [List.mem_singleton] at here
      rw [← here, dated]

variable [Arithmetic α]

/-- A streak, told by the rows alone: there are enough of them, one is of the
very date, and those with fewer later ones than days satisfy the set. -/
theorem holdsConsecutively_iff {set : ConditionSet α} {history rows : List (Snapshot α)}
    {date : Date} {days : Nat} (same : (successfulUpTo history date).Perm rows)
    (distinct : (rows.map (·.date)).Nodup) :
    set.holdsConsecutively history date days = true ↔
      days ≠ 0 ∧ days ≤ rows.length ∧ (∃ row ∈ rows, row.date = date) ∧
        ∀ row ∈ rows, (past Snapshot.date row.date rows).length < days →
          set.holds .nothing row = true := by
  have sorted := (upTo_perm history date).trans same
  have increasing := upTo_increasing ((same.map (·.date)).nodup_iff.mpr distinct)
  have recent : ∀ row, row ∈ (upTo history date).drop ((upTo history date).length - days) ↔
      row ∈ rows ∧ (past Snapshot.date row.date rows).length < days := by
    intro row
    rw [mem_drop_iff_past Snapshot.date increasing, sorted.mem_iff]
    unfold past
    rw [(sorted.filter _).length_eq]
  have dated : (∃ row ∈ successfulUpTo history date, row.date = date) ↔
      ∃ row ∈ rows, row.date = date := by
    simp only [same.mem_iff]
  unfold holdsConsecutively
  simp only [Bool.and_eq_true, bne_iff_ne, decide_eq_true_eq, List.all_eq_true,
    getLast_upTo_iff, dated]
  rw [sorted.length_eq] at recent ⊢
  constructor
  · rintro ⟨⟨⟨some_days, enough⟩, last⟩, satisfied⟩
    exact ⟨some_days, enough, last,
      fun row member few => satisfied row ((recent row).mpr ⟨member, few⟩)⟩
  · rintro ⟨some_days, enough, last, satisfied⟩
    refine ⟨⟨⟨some_days, enough⟩, last⟩, ?_⟩
    intro row there
    obtain ⟨member, few⟩ := (recent row).mp there
    exact satisfied row member few

/-- A set without conditions has no streak, however its rows are. -/
theorem holdsConsecutively_of_isEmpty {set : ConditionSet α} (empty : set.isEmpty = true)
    (history : List (Snapshot α)) (date : Date) (days : Nat) :
    set.holdsConsecutively history date days = false := by
  rw [← Bool.not_eq_true]
  intro streak
  unfold holdsConsecutively at streak
  simp only [Bool.and_eq_true, bne_iff_ne, decide_eq_true_eq, List.all_eq_true] at streak
  obtain ⟨⟨⟨some_days, enough⟩, _⟩, satisfied⟩ := streak
  obtain ⟨row, member⟩ : ∃ row, row ∈ (upTo history date).drop
      ((upTo history date).length - days) := by
    apply List.exists_mem_of_length_pos
    rw [List.length_drop]
    omega
  have nothing := satisfied row member
  rw [holds, if_pos empty] at nothing
  cases nothing

/-- The two readings of a set differ only where it has no conditions. -/
theorem holds_nothing_eq_everything {set : ConditionSet α} (nonempty : set.isEmpty = false)
    (row : Snapshot α) : set.holds .nothing row = set.holds .everything row := by
  simp only [holds, nonempty, Bool.false_eq_true, if_false]

end ConditionSet

section Sources

variable {α : Type} [Arithmetic α]

/-- A source that answers out of some rows: for a date with all rows that the
filter accepts, for a history without limit with the rows that the query
includes, in any order. -/
structure Source.Holds (source : Source α) (rows : List (Snapshot α)) : Prop where
  onDate : ∀ date filter, ∃ answer,
    source.onDate date filter = .ok answer ∧ Screen.Answers rows date filter answer
  history : ∀ query : HistoryQuery, query.limit = none → ∃ answer,
    source.history query = .ok answer ∧ answer.Perm (rows.filter query.includes)

theorem MemoryStore.source_holds (store : MemoryStore α) :
    store.source.Holds store.snapshots where
  onDate := by
    intro date filter
    exact ⟨_, rfl, Screen.answers_memory store date filter⟩
  history := by
    intro query unlimited
    refine ⟨_, rfl, ?_⟩
    rw [MemoryStore.history, unlimited]
    exact List.mergeSort_perm _ _

theorem FileStore.source_holds {store : FileStore} {rows : List (Snapshot Float)}
    (loaded : store.snapshots = .ok rows) : store.source.Holds rows where
  onDate := by
    intro date filter
    refine ⟨_, ?_, Screen.answers_memory ⟨rows, []⟩ date filter⟩
    change store.onDate date filter = _
    rw [FileStore.onDate, loaded]
    rfl
  history := by
    intro query unlimited
    refine ⟨_, ?_, .refl _⟩
    change store.history query = _
    rw [FileStore.history, loaded, unlimited]
    rfl

end Sources

namespace Screen

variable {α : Type}

/-- The successful rows of a symbol up to a date. -/
def rowsOf (rows : List (Snapshot α)) (symbol : String) (date : Date) : List (Snapshot α) :=
  ConditionSet.successfulUpTo (rows.filter fun row => row.symbol == symbol) date

variable {rows answer : List (Snapshot α)} {symbol : String} {date : Date} {row : Snapshot α}

theorem mem_rowsOf : row ∈ rowsOf rows symbol date ↔
    row ∈ rows ∧ row.symbol = symbol ∧ row.success = true ∧ row.date ≤ date := by
  rw [rowsOf, ConditionSet.mem_successfulUpTo, List.mem_filter, beq_iff_eq, and_assoc]

/-- Of what a source gives for a symbol, a streak looks at the symbol's rows. -/
theorem successfulUpTo_answer
    (given : answer.Perm (rows.filter
      (HistoryQuery.includes { symbol := symbol, finish := some date }))) :
    (ConditionSet.successfulUpTo answer date).Perm (rowsOf rows symbol date) := by
  have filtered := given.filter fun row => row.success && decide (row.date ≤ date)
  rw [List.filter_filter] at filtered
  rw [rowsOf, ConditionSet.successfulUpTo, ConditionSet.successfulUpTo, List.filter_filter]
  have same : (fun row : Snapshot α => row.success && decide (row.date ≤ date) &&
      HistoryQuery.includes { symbol := symbol, finish := some date } row) =
      fun row => row.success && decide (row.date ≤ date) && row.symbol == symbol := by
    funext row
    simp only [HistoryQuery.includes, Option.all_none, Option.all_some]
    cases row.success <;> cases decide (row.date ≤ date) <;> simp
  rwa [same] at filtered

theorem rowsOf_distinct
    (distinct : ((rows.filter (·.success)).map fun row => (row.symbol, row.date)).Nodup) :
    ((rowsOf rows symbol date).map (·.date)).Nodup := by
  have narrower : (rowsOf rows symbol date).Sublist (rows.filter (·.success)) := by
    rw [rowsOf, ConditionSet.successfulUpTo, List.filter_filter]
    apply List.monotone_filter_right
    intro row belongs
    simp only [Bool.and_eq_true] at belongs
    exact belongs.1.1
  have pairs := (narrower.map fun row => (row.symbol, row.date)).nodup distinct
  rw [List.Nodup, List.pairwise_map] at pairs ⊢
  apply pairs.imp_of_mem
  intro first second firstThere secondThere different sameDate
  apply different
  rw [(mem_rowsOf.mp firstThere).2.1, (mem_rowsOf.mp secondThere).2.1, sameDate]

variable [Arithmetic α]

/-- A symbol whose most recent rows up to a date, as many as there are days, would
each be on the screen of their own date. -/
structure Streak (rows : List (Snapshot α)) (symbol : String) (date : Date)
    (set : ConditionSet α) (days : Nat) : Prop where
  enough : days ≤ (rowsOf rows symbol date).length
  matched : ∀ row ∈ rowsOf rows symbol date,
    (past Snapshot.date row.date (rowsOf rows symbol date)).length < days →
      matchesOn row.date set row = true

variable {set : ConditionSet α} {days : Nat}

/-- The row of a day that a screen lists is a streak of one day. -/
theorem streak_one
    (distinct : ((rows.filter (·.success)).map fun row => (row.symbol, row.date)).Nodup)
    (held : row ∈ rows) (matching : matchesOn date set row = true) :
    Streak rows row.symbol date set 1 := by
  obtain ⟨success, dated, _⟩ := matchesOn_iff.mp matching
  have notLater : row.date ≤ date := by
    rw [dated]
    exact Int.le_refl _
  have member : row ∈ rowsOf rows row.symbol date :=
    mem_rowsOf.mpr ⟨held, rfl, success, notLater⟩
  refine ⟨List.length_pos_of_mem member, ?_⟩
  intro other there latest
  obtain ⟨otherHeld, sameSymbol, otherSuccess, before⟩ := mem_rowsOf.mp there
  -- no row is later than the latest one, this row included
  have notEarlier : ¬ other.date < row.date := by
    intro earlier
    have later : row ∈ past Snapshot.date other.date (rowsOf rows row.symbol date) :=
      (mem_past Snapshot.date).mpr ⟨member, earlier⟩
    have some_later := List.length_pos_of_mem later
    omega
  have sameDate : other.date = row.date := by
    apply Date.eq_of_day_eq
    rw [Date.lt_iff] at notEarlier
    rw [dated] at notEarlier ⊢
    rw [Date.le_iff] at before
    omega
  have same : other = row := by
    apply List.inj_on_of_nodup_map distinct
    · exact List.mem_filter.mpr ⟨otherHeld, otherSuccess⟩
    · exact List.mem_filter.mpr ⟨held, success⟩
    · rw [sameSymbol, sameDate]
  rw [same, dated]
  exact matching

/-- A set with conditions is asked of the rows of a streak as a screen asks it. -/
theorem holdsConsecutively_iff_streak
    (distinct : ((rows.filter (·.success)).map fun row => (row.symbol, row.date)).Nodup)
    (given : answer.Perm (rows.filter
      (HistoryQuery.includes { symbol := row.symbol, finish := some date })))
    (held : row ∈ rows) (matching : matchesOn date set row = true)
    (nonempty : set.isEmpty = false) (positive : days ≠ 0) :
    set.holdsConsecutively answer date days = true ↔ Streak rows row.symbol date set days := by
  obtain ⟨success, dated, _⟩ := matchesOn_iff.mp matching
  have member : row ∈ rowsOf rows row.symbol date := by
    refine mem_rowsOf.mpr ⟨held, rfl, success, ?_⟩
    rw [dated]
    exact Int.le_refl _
  rw [ConditionSet.holdsConsecutively_iff (successfulUpTo_answer given)
    (rowsOf_distinct distinct)]
  constructor
  · rintro ⟨_, enough, _, satisfied⟩
    refine ⟨enough, ?_⟩
    intro other there recent
    have holds := satisfied other there recent
    rw [ConditionSet.holds_nothing_eq_everything nonempty] at holds
    exact matchesOn_iff.mpr ⟨(mem_rowsOf.mp there).2.2.1, rfl, holds⟩
  · intro streak
    refine ⟨positive, streak.enough, ⟨row, member, dated⟩, ?_⟩
    intro other there recent
    rw [ConditionSet.holds_nothing_eq_everything nonempty]
    exact (matchesOn_iff.mp (streak.matched other there recent)).2.2

theorem confirmStreak_of_le_one {source : Source α} (few : days ≤ 1) :
    confirmStreak source rows date set days = .ok rows := by
  rw [confirmStreak, if_pos few]

theorem confirmStreak_of_answers {source : Source α} (history : String → List (Snapshot α))
    (several : 1 < days)
    (answered : ∀ row ∈ rows,
      source.history { symbol := row.symbol, finish := some date } = .ok (history row.symbol)) :
    confirmStreak source rows date set days =
      .ok (rows.filter fun row =>
        set.holdsConsecutively (history row.symbol) date days) := by
  rw [confirmStreak, if_neg (Nat.not_le_of_lt several)]
  apply filterM_eq_ok
  intro row member
  rw [answered row member]
  rfl

/-- What a page lists comes from the rows of its source. -/
theorem mem_of_mem_page {request : PageRequest} {order : SortOrder}
    (answers : Answers rows date (SnapshotFilter.ofSet set) answer)
    (member : row ∈ (Page.ofList request (listing date set order answer)).rows) :
    row ∈ rows ∧ matchesOn date set row = true := by
  have listed : row ∈ listing date set order answer :=
    List.mem_of_mem_drop (List.mem_of_mem_take member)
  obtain ⟨inAnswer, matching⟩ := mem_listing.mp listed
  exact ⟨answers.taken.subset inAnswer, matchesOn_iff.mpr matching⟩

/-- A screened row is confirmed if its symbol's most recent rows, as many as
there are days, would all be on a screen, and more than one of them is asked for
only of a set with conditions. -/
theorem confirmStreak_iff (source : Source α) (rows : List (Snapshot α))
    (holds : source.Holds rows)
    (distinct : ((rows.filter (·.success)).map fun row => (row.symbol, row.date)).Nodup)
    (date : Date) (set : ConditionSet α) (order : SortOrder) (request : PageRequest)
    (days : Nat) (valid : set.validate = .ok ()) (positive : 1 ≤ days) :
    ∃ page kept,
      run source date set order request = .ok page ∧
      confirmStreak source page.rows date set days = .ok kept ∧
      kept.Sublist page.rows ∧
      ∀ row ∈ page.rows, row ∈ kept ↔
        Streak rows row.symbol date set days ∧ (days = 1 ∨ set.isEmpty = false) := by
  obtain ⟨answer, answered, answers⟩ := holds.onDate date (SnapshotFilter.ofSet set)
  have paged : run source date set order request =
      .ok (Page.ofList request (listing date set order answer)) := run_eq_page valid answered
  by_cases one : days = 1
  · subst one
    refine ⟨_, _, paged, confirmStreak_of_le_one (Nat.le_refl 1), .refl _, ?_⟩
    intro row member
    obtain ⟨held, matching⟩ := mem_of_mem_page answers member
    exact ⟨fun _ => ⟨streak_one distinct held matching, .inl rfl⟩, fun _ => member⟩
  · choose history given same using fun symbol =>
      holds.history { symbol := symbol, finish := some date } rfl
    refine ⟨_, _, paged,
      confirmStreak_of_answers history (by omega) (fun row _ => given row.symbol),
      List.filter_sublist, ?_⟩
    intro row member
    obtain ⟨held, matching⟩ := mem_of_mem_page answers member
    rw [List.mem_filter]
    cases empty : set.isEmpty with
    | true =>
        rw [ConditionSet.holdsConsecutively_of_isEmpty empty]
        simp [one]
    | false =>
        rw [holdsConsecutively_iff_streak distinct (same row.symbol) held matching empty
          (by omega)]
        simp [member]

end Screen

namespace Sample

/-- Two days of two symbols, of which one scored too little on the first. -/
def twoDays : MemoryStore Rat :=
  ⟨[rowOf "AAA" firstDay 3, rowOf "BBB" firstDay 1, rowOf "AAA" secondDay 5,
    rowOf "BBB" secondDay 7], []⟩

theorem twoDays_distinct : ((twoDays.snapshots.filter (·.success)).map
    fun row => (row.symbol, row.date)).Nodup := by
  decide

theorem run_twoDays (set : ConditionSet Rat)
    (valid : set.validate = .ok ())
    (matching : (twoDays.onDate secondDay (SnapshotFilter.ofSet set)).filter
      (Screen.matchesOn secondDay set) =
        [rowOf "AAA" secondDay 5, rowOf "BBB" secondDay 7]) :
    Screen.run twoDays.source secondDay set .default ⟨0, 0⟩ =
      .ok ⟨[rowOf "BBB" secondDay 7, rowOf "AAA" secondDay 5], 2, false⟩ := by
  have listing : Screen.listing secondDay set .default
      (twoDays.onDate secondDay (SnapshotFilter.ofSet set)) =
        [rowOf "BBB" secondDay 7, rowOf "AAA" secondDay 5] := by
    rw [Screen.listing, matching]
    apply SortOrder.sort_eq_of_increasing (by decide +kernel) (.swap _ _ _)
    unfold SortOrder.Increasing
    decide +kernel
  rw [Screen.run_eq_page valid rfl, listing]
  rfl

end Sample

namespace Screen

/-- Only the symbol that satisfied the set on both days is confirmed. -/
theorem confirmStreak_iff_twoDays :
    Sample.twoDays.source.Holds Sample.twoDays.snapshots ∧
      Sample.scored.validate = .ok () ∧
      ∃ kept, confirmStreak Sample.twoDays.source
          [Sample.rowOf "BBB" Sample.secondDay 7, Sample.rowOf "AAA" Sample.secondDay 5]
          Sample.secondDay Sample.scored 2 = .ok kept ∧
        Sample.rowOf "AAA" Sample.secondDay 5 ∈ kept ∧
        Sample.rowOf "BBB" Sample.secondDay 7 ∉ kept := by
  obtain ⟨page, kept, paged, confirmed, _, decided⟩ := confirmStreak_iff Sample.twoDays.source
    Sample.twoDays.snapshots (MemoryStore.source_holds _) Sample.twoDays_distinct
    Sample.secondDay Sample.scored .default ⟨0, 0⟩ 2 Sample.scored_valid (by decide)
  rw [Sample.run_twoDays Sample.scored Sample.scored_valid rfl] at paged
  cases paged
  refine ⟨MemoryStore.source_holds _, Sample.scored_valid, kept, confirmed, ?_, ?_⟩
  · apply (decided _ (by simp)).mpr
    refine ⟨⟨by decide, ?_⟩, .inr rfl⟩
    decide +kernel
  · intro there
    obtain ⟨streak, _⟩ := (decided _ (by simp)).mp there
    have first := streak.matched (Sample.rowOf "BBB" Sample.firstDay 1)
      (mem_rowsOf.mpr ⟨by simp [Sample.twoDays], rfl, rfl, by decide⟩) (by decide)
    exact absurd first (by decide +kernel)

/-- A screen without conditions lists a row whose symbol has a streak of two days,
and yet the row is not confirmed. -/
theorem streak_without_conditions_lost :
    (ConditionSet.empty : ConditionSet Rat).validate = .ok () ∧
      ((Sample.twoDays.snapshots.filter (·.success)).map
        fun row => (row.symbol, row.date)).Nodup ∧
      run Sample.twoDays.source Sample.secondDay .empty .default ⟨0, 0⟩ =
        .ok ⟨[Sample.rowOf "BBB" Sample.secondDay 7, Sample.rowOf "AAA" Sample.secondDay 5],
          2, false⟩ ∧
      Streak Sample.twoDays.snapshots "AAA" Sample.secondDay .empty 2 ∧
      confirmStreak Sample.twoDays.source
        [Sample.rowOf "BBB" Sample.secondDay 7, Sample.rowOf "AAA" Sample.secondDay 5]
        Sample.secondDay .empty 2 = .ok [] := by
  refine ⟨rfl, Sample.twoDays_distinct, Sample.run_twoDays .empty rfl rfl,
    ⟨by decide, by decide +kernel⟩, ?_⟩
  have lost : ∀ history, (ConditionSet.empty : ConditionSet Rat).holdsConsecutively history
      Sample.secondDay 2 = false := by
    intro history
    exact ConditionSet.holdsConsecutively_of_isEmpty rfl history _ _
  rw [confirmStreak_of_answers (fun symbol => Sample.twoDays.history
    { symbol := symbol, finish := some Sample.secondDay }) (by decide) (fun _ _ => rfl)]
  simp only [lost]
  rfl

end Screen

end DailySignals
