import DailySignals.Proofs.Screen.Streak

/-!
# The rows that a streak looks at

A streak of some days is over the latest rows, as many as there are days.  These are
picked out of the successful rows up to a date by their dates alone, so neither the
order of a history nor anything else in it counts; and a shorter streak looks at
fewer of the same rows.
-/

set_option autoImplicit false

namespace DailySignals

section Latest

variable {β : Type} (dateOf : β → Date)

/-- The latest rows: those with fewer later ones than are wanted. -/
def latest (count : Nat) (rows : List β) : List β :=
  rows.filter fun row => decide ((past dateOf (dateOf row) rows).length < count)

theorem mem_latest {count : Nat} {rows : List β} {row : β} :
    row ∈ latest dateOf count rows ↔
      row ∈ rows ∧ (past dateOf (dateOf row) rows).length < count := by
  rw [latest, List.mem_filter, decide_eq_true_eq]

theorem past_length_anti {first second : Date} (before : first ≤ second) (rows : List β) :
    (past dateOf second rows).length ≤ (past dateOf first rows).length := by
  apply List.Sublist.length_le
  apply List.monotone_filter_right
  intro row later
  rw [decide_eq_true_eq, Date.lt_iff] at later ⊢
  rw [Date.le_iff] at before
  omega

/-- A row that is not among the latest ones is earlier than each of them. -/
theorem lt_of_mem_latest {count : Nat} {rows : List β} {recent row : β}
    (there : recent ∈ latest dateOf count rows) (member : row ∈ rows)
    (left : row ∉ latest dateOf count rows) : dateOf row < dateOf recent := by
  by_contra notEarlier
  have before : dateOf recent ≤ dateOf row := by
    rw [Date.le_iff]
    rw [Date.lt_iff] at notEarlier
    omega
  have fewer := past_length_anti dateOf before rows
  obtain ⟨_, few⟩ := (mem_latest dateOf).mp there
  exact left ((mem_latest dateOf).mpr ⟨member, by omega⟩)

/-- Of enough rows of different dates the latest ones are as many as are wanted. -/
theorem length_latest {count : Nat} {rows : List β} (distinct : (rows.map dateOf).Nodup)
    (enough : count ≤ rows.length) : (latest dateOf count rows).length = count := by
  have sorted := List.mergeSort_perm rows (notAfter dateOf)
  have increasing := (dateOrdered_mergeSort dateOf rows).increasing dateOf
    ((sorted.map dateOf).nodup_iff.mpr distinct)
  have rowsDistinct : rows.Nodup := .of_map dateOf distinct
  have sortedDistinct := sorted.nodup_iff.mpr rowsDistinct
  have same : (latest dateOf count rows).Perm ((rows.mergeSort (notAfter dateOf)).drop
      ((rows.mergeSort (notAfter dateOf)).length - count)) := by
    have latestDistinct : (latest dateOf count rows).Nodup := rowsDistinct.filter _
    apply (List.perm_ext_iff_of_nodup latestDistinct
      (sortedDistinct.sublist (List.drop_sublist _ _))).mpr
    intro row
    rw [mem_latest, mem_drop_iff_past dateOf increasing, sorted.mem_iff]
    unfold past
    rw [(sorted.filter _).length_eq]
  rw [same.length_eq, List.length_drop, sorted.length_eq]
  omega

end Latest

namespace ConditionSet

variable {α : Type}

/-- Rows that a streak up to a date does not look at. -/
def Ignored (date : Date) (row : Snapshot α) : Prop :=
  row.success = false ∨ date < row.date

theorem successfulUpTo_ignored {date : Date} {rows : List (Snapshot α)}
    (ignored : ∀ row ∈ rows, Ignored date row) : successfulUpTo rows date = [] := by
  rw [List.eq_nil_iff_forall_not_mem]
  intro row member
  obtain ⟨there, success, before⟩ := mem_successfulUpTo.mp member
  rcases ignored row there with failed | later
  · rw [failed] at success
    cases success
  · rw [Date.lt_iff] at later
    rw [Date.le_iff] at before
    omega

/-- Of histories that are put together of some rows and ignored ones, in any order, a
streak looks at the same rows. -/
theorem successfulUpTo_perm {date : Date} {rows kept others : List (Snapshot α)}
    (put : rows.Perm (kept ++ others)) (ignored : ∀ row ∈ others, Ignored date row) :
    (successfulUpTo rows date).Perm (successfulUpTo kept date) := by
  have same := put.filter fun row => row.success && decide (row.date ≤ date)
  have none := successfulUpTo_ignored ignored
  unfold successfulUpTo at none ⊢
  rwa [List.filter_append, none, List.append_nil] at same

variable [Arithmetic α] {set : ConditionSet α}

/-- Two histories with the same successful rows up to a date have the same streaks. -/
theorem holdsConsecutively_congr {history other : List (Snapshot α)} {date : Date} (days : Nat)
    (same : (successfulUpTo other date).Perm (successfulUpTo history date))
    (distinct : ((successfulUpTo history date).map (·.date)).Nodup) :
    set.holdsConsecutively other date days = set.holdsConsecutively history date days := by
  rw [Bool.eq_iff_iff, holdsConsecutively_iff same distinct,
    holdsConsecutively_iff (.refl _) distinct]

theorem holdsConsecutively_mono {history : List (Snapshot α)} {date : Date} {days fewer : Nat}
    (streak : set.holdsConsecutively history date days = true) (positive : 1 ≤ fewer)
    (shorter : fewer ≤ days) : set.holdsConsecutively history date fewer = true := by
  unfold holdsConsecutively at streak ⊢
  simp only [Bool.and_eq_true, bne_iff_ne, decide_eq_true_eq, List.all_eq_true] at streak ⊢
  obtain ⟨⟨⟨_, enough⟩, last⟩, satisfied⟩ := streak
  refine ⟨⟨⟨by omega, by omega⟩, last⟩, ?_⟩
  intro row member
  have among := List.drop_subset_drop_left (upTo history date)
    (show (upTo history date).length - days ≤ (upTo history date).length - fewer by omega)
  exact satisfied row (among member)

/-- The latest rows of a list satisfy a set, as many as there are days, and the last
one is of a date. -/
structure LatestHold (set : ConditionSet α) (policy : EmptyPolicy) (rows : List (Snapshot α))
    (date : Date) (days : Nat) : Prop where
  enough : days ≤ rows.length
  last : ∃ last ∈ rows, last.date = date ∧ ∀ row ∈ rows, row.date ≤ last.date
  satisfied : ∀ row ∈ latest Snapshot.date days rows, set.holds policy row = true

theorem holdsConsecutively_iff_latestHold (nonempty : set.isEmpty = false)
    {history : List (Snapshot α)} {date : Date} {days : Nat} (positive : 1 ≤ days)
    (distinct : ((successfulUpTo history date).map (·.date)).Nodup) (policy : EmptyPolicy) :
    set.holdsConsecutively history date days = true ↔
      set.LatestHold policy (successfulUpTo history date) date days := by
  have samePolicy : ∀ row, set.holds .nothing row = set.holds policy row := by
    intro row
    cases policy with
    | nothing => rfl
    | everything => exact holds_nothing_eq_everything nonempty row
  rw [holdsConsecutively_iff (.refl _) distinct]
  simp only [samePolicy]
  constructor
  · rintro ⟨_, enough, ⟨last, there, dated⟩, satisfied⟩
    refine ⟨enough, ⟨last, there, dated, ?_⟩, ?_⟩
    · intro row member
      rw [dated]
      exact (mem_successfulUpTo.mp member).2.2
    · intro row member
      obtain ⟨there, few⟩ := (mem_latest Snapshot.date).mp member
      exact satisfied row there few
  · rintro ⟨enough, ⟨last, there, dated, _⟩, satisfied⟩
    refine ⟨by omega, enough, ⟨last, there, dated⟩, ?_⟩
    intro row there few
    exact satisfied row ((mem_latest Snapshot.date).mpr ⟨there, few⟩)

/-- Of successful rows of different dates, a streak of some days is what it says: there
are as many rows up to the date, the last one is of the date, and the latest ones
satisfy the set.  It stays the same when rows change places and when failed or later
rows come and go, and shorter streaks come with it. -/
theorem holdsConsecutively_latest (set : ConditionSet α) (nonempty : set.isEmpty = false)
    (history : List (Snapshot α)) (date : Date) (days : Nat) (positive : 1 ≤ days)
    (distinct : ((successfulUpTo history date).map (·.date)).Nodup) :
    (∀ policy, set.holdsConsecutively history date days = true ↔
        set.LatestHold policy (successfulUpTo history date) date days) ∧
      (days ≤ (successfulUpTo history date).length →
        (latest Snapshot.date days (successfulUpTo history date)).length = days ∧
          ∀ recent ∈ latest Snapshot.date days (successfulUpTo history date),
            ∀ row ∈ successfulUpTo history date,
              row ∉ latest Snapshot.date days (successfulUpTo history date) →
                row.date < recent.date) ∧
      (∀ kept removed added other, history.Perm (kept ++ removed) →
        other.Perm (kept ++ added) → (∀ row ∈ removed, Ignored date row) →
        (∀ row ∈ added, Ignored date row) →
          set.holdsConsecutively other date days = set.holdsConsecutively history date days) ∧
      (set.holdsConsecutively history date days = true →
        ∀ fewer, 1 ≤ fewer → fewer ≤ days →
          set.holdsConsecutively history date fewer = true) := by
  refine ⟨holdsConsecutively_iff_latestHold nonempty positive distinct, ?_, ?_, ?_⟩
  · intro enough
    refine ⟨length_latest Snapshot.date distinct enough, ?_⟩
    intro recent there row member left
    exact lt_of_mem_latest Snapshot.date there member left
  · intro kept removed added other before after removedIgnored addedIgnored
    have same := (successfulUpTo_perm after addedIgnored).trans
      (successfulUpTo_perm before removedIgnored).symm
    exact holdsConsecutively_congr days same distinct
  · intro streak fewer some_days shorter
    exact holdsConsecutively_mono streak some_days shorter

end ConditionSet

namespace Sample

/-- A later row and a failed one, and two rows of a streak, newest first. -/
def shuffled : List (Snapshot Rat) :=
  [rowOf "AAA" thirdDay 1, failedRow, rowOf "AAA" secondDay 5, rowOf "AAA" firstDay 3]

theorem shuffled_distinct :
    ((ConditionSet.successfulUpTo shuffled secondDay).map (·.date)).Nodup := by
  decide

end Sample

namespace ConditionSet

theorem holdsConsecutively_latest_shuffled :
    Sample.scored.isEmpty = false ∧ 1 ≤ 2 ∧
      ((successfulUpTo Sample.shuffled Sample.secondDay).map (·.date)).Nodup ∧
      Sample.scored.holdsConsecutively Sample.shuffled Sample.secondDay 2 = true ∧
      Sample.scored.holdsConsecutively
        [Sample.rowOf "AAA" Sample.firstDay 3, Sample.rowOf "AAA" Sample.secondDay 5]
        Sample.secondDay 2 = true := by
  obtain ⟨told, _, settled, _⟩ := holdsConsecutively_latest Sample.scored rfl Sample.shuffled
    Sample.secondDay 2 (by decide) Sample.shuffled_distinct
  have streak := (told .nothing).mpr ⟨by decide, by decide +kernel, by decide +kernel⟩
  refine ⟨rfl, by decide, Sample.shuffled_distinct, streak, ?_⟩
  rw [← streak]
  apply settled [Sample.rowOf "AAA" Sample.firstDay 3, Sample.rowOf "AAA" Sample.secondDay 5]
    [Sample.failedRow, Sample.rowOf "AAA" Sample.thirdDay 1] []
  · exact (List.reverse_perm Sample.shuffled).symm
  · rw [List.append_nil]
  · intro row member
    rcases List.mem_pair.mp member with rfl | rfl
    · exact .inl rfl
    · exact .inr (by decide)
  · intro row member
    cases member

end ConditionSet

end DailySignals
