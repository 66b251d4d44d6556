import DailySignals.Proofs.Screen.Listing
import DailySignals.Store.Files

/-!
# Walking the pages of a screen

A reader asks for pages one after the other, each from where the rows of the one
before end, until a page says that it is the last (`Walk`).  A page that is not
the last has rows, so this comes to an end, and nothing is left out between two
pages.  A source that answers with the rows it was asked for, in the order it has
them, gives the screen all that it looks for: what is walked through are the
matches of all rows, also where rows share a symbol.
-/

set_option autoImplicit false

namespace DailySignals

/-! ## Pages of a list -/

theorem PageRequest.effectiveLimit_pos (request : PageRequest) : 0 < request.effectiveLimit := by
  unfold effectiveLimit defaultSize greatestSize
  split <;> omega

theorem PageRequest.effectiveLimit_le (request : PageRequest) :
    request.effectiveLimit ≤ greatestSize := by
  unfold effectiveLimit defaultSize greatestSize
  split <;> omega

/-- The pages that are asked for from an offset on, each from where the rows of
the one before end, up to the first that is not followed by another. -/
inductive Walk {ε β : Type} (ask : Nat → Except ε (Page β)) : Nat → List (Page β) → Prop
  | last {offset : Nat} {page : Page β} (asked : ask offset = .ok page)
      (final : page.hasMore = false) : Walk ask offset [page]
  | next {offset : Nat} {page : Page β} {pages : List (Page β)} (asked : ask offset = .ok page)
      (more : page.hasMore = true) (rest : Walk ask (offset + page.rows.length) pages) :
      Walk ask offset (page :: pages)

theorem Walk.unique {ε β : Type} {ask : Nat → Except ε (Page β)} {offset : Nat}
    {pages others : List (Page β)} (walk : Walk ask offset pages)
    (other : Walk ask offset others) : others = pages := by
  induction walk generalizing others with
  | last asked final =>
      cases other with
      | last asked' final' =>
          cases asked.symm.trans asked'
          rfl
      | next asked' more rest =>
          cases asked.symm.trans asked'
          cases final.symm.trans more
  | next asked more rest ih =>
      cases other with
      | last asked' final =>
          cases asked.symm.trans asked'
          cases more.symm.trans final
      | next asked' more' rest' =>
          cases asked.symm.trans asked'
          rw [ih rest']

namespace Page

variable {β : Type} {request : PageRequest} {rows : List β}

theorem length_rows (request : PageRequest) (rows : List β) :
    (ofList request rows).rows.length =
      min request.effectiveLimit (rows.length - request.offset) := by
  rw [ofList, List.length_take, List.length_drop]

theorem length_rows_le (request : PageRequest) (rows : List β) :
    (ofList request rows).rows.length ≤ PageRequest.greatestSize := by
  rw [length_rows]
  exact Nat.le_trans (Nat.min_le_left _ _) request.effectiveLimit_le

/-- A page is followed by another exactly if there are rows behind its own. -/
theorem hasMore_iff : (ofList request rows).hasMore = true ↔
    request.offset + (ofList request rows).rows.length < rows.length := by
  rw [length_rows]
  simp only [ofList, List.length_drop, decide_eq_true_eq]
  omega

/-- The rows behind an offset are those of its page and those behind the page. -/
theorem rows_append_drop (request : PageRequest) (rows : List β) :
    (ofList request rows).rows ++
        rows.drop (request.offset + (ofList request rows).rows.length) =
      rows.drop request.offset := by
  have partial_page : (ofList request rows).rows.length =
      min request.effectiveLimit (rows.drop request.offset).length := by
    rw [length_rows, List.length_drop]
  rw [← List.drop_drop, partial_page, ← List.drop_eq_drop_min]
  exact List.take_append_drop _ _

/-- Behind the rows of the last page there are no more. -/
theorem rows_of_last (last : (ofList request rows).hasMore = false) :
    (ofList request rows).rows = rows.drop request.offset := by
  rw [← Bool.not_eq_true, hasMore_iff, Nat.not_lt] at last
  rw [← rows_append_drop request rows, List.drop_eq_nil_iff.mpr last, List.append_nil]

/-- A page that is not the last takes a part of what is still to be seen. -/
theorem unseen_lt (more : (ofList request rows).hasMore = true) :
    rows.length - (request.offset + (ofList request rows).rows.length) <
      rows.length - request.offset := by
  rw [hasMore_iff] at more
  have positive := request.effectiveLimit_pos
  have page := length_rows request rows
  omega

/-- The walk through the pages of a list. -/
theorem exists_walk {ε : Type} (limit offset : Nat) (rows : List β) :
    ∃ pages, Walk (ε := ε) (fun offset => .ok (ofList ⟨offset, limit⟩ rows)) offset pages ∧
      pages.flatMap (·.rows) = rows.drop offset ∧
      ∀ page ∈ pages, page.rows.length ≤ PageRequest.greatestSize ∧
        page.total = rows.length := by
  -- on the number of rows that are still to be seen
  induction unseen : rows.length - offset using Nat.strongRecOn generalizing offset with
  | ind unseen ih =>
      cases more : (ofList ⟨offset, limit⟩ rows).hasMore with
      | false =>
          refine ⟨[ofList ⟨offset, limit⟩ rows], .last rfl more, ?_, ?_⟩
          · rw [List.flatMap_singleton, rows_of_last more]
          · intro page member
            rw [List.mem_singleton] at member
            exact member ▸ ⟨length_rows_le _ rows, rfl⟩
      | true =>
          have fewer := unseen_lt more
          obtain ⟨pages, walk, behind, each⟩ := ih _ (unseen ▸ fewer) _ rfl
          refine ⟨ofList ⟨offset, limit⟩ rows :: pages, .next rfl more walk, ?_, ?_⟩
          · rw [List.flatMap_cons, behind]
            exact rows_append_drop ⟨offset, limit⟩ rows
          · intro page member
            rcases List.mem_cons.mp member with rfl | member
            · exact ⟨length_rows_le _ rows, rfl⟩
            · exact each page member

/-! Offsets and limits are words of 64 bits.  The end of a page is found by a sum
that stops at the greatest word, between an offset and an end that are clamped to
the list. -/

def greatestWord : Nat := 2 ^ 64 - 1

def clamped (request : PageRequest) (rows : List β) : Page β :=
  let start := min request.offset rows.length
  let stop := min (min (start + request.effectiveLimit) greatestWord) rows.length
  { rows := (rows.take stop).drop start
    total := rows.length
    hasMore := decide (stop < rows.length) }

/-- No list is so long that the greatest word makes a difference. -/
theorem clamped_eq_ofList (request : PageRequest)
    (fits : rows.length ≤ greatestWord) : clamped request rows = ofList request rows := by
  simp only [clamped, ofList, List.length_drop, mk.injEq, true_and]
  constructor
  · rw [List.drop_take, ← List.drop_eq_drop_min, List.take_eq_take_iff, List.length_drop]
    omega
  · rw [decide_eq_decide]
    have some_rows := request.effectiveLimit_pos
    omega

end Page

/-! ## Pages of a screen -/

/-- A source that answers for a date with the rows that the filter accepts, in
the order in which it has them. -/
def Source.Selects {α : Type} [Arithmetic α] (source : Source α) (rows : List (Snapshot α)) :
    Prop :=
  ∀ date filter, source.onDate date filter =
    .ok (rows.filter fun row => row.date == date && filter.accepts row)

theorem MemoryStore.source_selects {α : Type} [Arithmetic α] (store : MemoryStore α) :
    store.source.Selects store.snapshots :=
  fun _ _ => rfl

theorem FileStore.source_selects {store : FileStore} {rows : List (Snapshot Float)}
    (loaded : store.snapshots = .ok rows) : store.source.Selects rows := by
  intro date filter
  change store.onDate date filter = _
  rw [FileStore.onDate, loaded]
  rfl

namespace Screen

variable {α : Type} [Arithmetic α] [LawfulOrder α]

/-- The filter of a set takes nothing away from what a screen lists. -/
theorem listing_selected (date : Date) (set : ConditionSet α) (order : SortOrder)
    (rows : List (Snapshot α)) :
    listing date set order
        (rows.filter fun row => row.date == date && (SnapshotFilter.ofSet set).accepts row) =
      listing date set order rows := by
  rw [listing, listing, List.filter_filter]
  congr 1
  apply List.filter_congr
  intro row _
  cases matching : matchesOn date set row with
  | false => rfl
  | true =>
      obtain ⟨_, dated, _⟩ := matchesOn_iff.mp matching
      rw [accepts_of_matchesOn matching, dated, BEq.rfl]
      rfl

theorem run_of_selects {source : Source α} {rows : List (Snapshot α)}
    (selects : source.Selects rows) {date : Date} {set : ConditionSet α} {order : SortOrder}
    (valid : set.validate = .ok ()) (request : PageRequest) :
    run source date set order request =
      .ok (Page.ofList request (listing date set order rows)) := by
  rw [run_eq_page valid (selects date (SnapshotFilter.ofSet set)), listing_selected]

/-- The pages of a screen come to an end and hold the sorted matches, each once,
whatever limit is asked for; no page is larger than the greatest size, and all
report the number of all matches.  For any offset and limit, a page is followed
by another exactly if there are matches behind its rows. -/
theorem run_walk (source : Source α) (rows : List (Snapshot α)) (selects : source.Selects rows)
    (date : Date) (set : ConditionSet α) (valid : set.validate = .ok ()) (order : SortOrder)
    (limit : Nat) :
    (∃ pages, Walk (fun offset => run source date set order ⟨offset, limit⟩) 0 pages ∧
        pages.flatMap (·.rows) = listing date set order rows ∧
        (∀ page ∈ pages, page.rows.length ≤ PageRequest.greatestSize ∧
          page.total = (listing date set order rows).length) ∧
        ∀ others, Walk (fun offset => run source date set order ⟨offset, limit⟩) 0 others →
          others = pages) ∧
      (listing date set order rows).Perm (rows.filter (matchesOn date set)) ∧
      ((listing date set order rows).Pairwise fun first second =>
        (order.compareRows first second).isLE = true) ∧
      ∀ request, ∃ page, run source date set order request = .ok page ∧
        (page.hasMore = true ↔ request.offset + page.rows.length < page.total) := by
  have asked : (fun offset => run source date set order ⟨offset, limit⟩) =
      fun offset => .ok (Page.ofList ⟨offset, limit⟩ (listing date set order rows)) :=
    funext fun offset => run_of_selects selects valid ⟨offset, limit⟩
  obtain ⟨pages, walk, whole, each⟩ := Page.exists_walk limit 0 (listing date set order rows)
  rw [asked]
  refine ⟨⟨pages, walk, whole, each, fun others other => walk.unique other⟩,
    order.sort_perm _, order.sort_sorted _, ?_⟩
  intro request
  exact ⟨_, run_of_selects selects valid request, Page.hasMore_iff⟩

/-- Pages of one row each, of a day with two matches among four rows. -/
theorem run_walk_held :
    (MemoryStore.source ⟨Sample.held, []⟩).Selects Sample.held ∧
      Sample.scored.validate = .ok () ∧
      ∃ pages, Walk (fun offset => run (MemoryStore.source ⟨Sample.held, []⟩) Sample.firstDay
          Sample.scored .default ⟨offset, 1⟩) 0 pages ∧
        pages.flatMap (·.rows) =
          [Sample.rowOf "BBB" Sample.firstDay 5, Sample.rowOf "AAA" Sample.firstDay 3] := by
  have selects := MemoryStore.source_selects (⟨Sample.held, []⟩ : MemoryStore Rat)
  obtain ⟨⟨pages, walk, whole, _⟩, _⟩ := run_walk _ Sample.held selects Sample.firstDay
    Sample.scored Sample.scored_valid .default 1
  rw [Sample.listing_held] at whole
  exact ⟨selects, Sample.scored_valid, pages, walk, whole⟩

end Screen

end DailySignals
