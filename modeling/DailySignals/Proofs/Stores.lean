import DailySignals.Proofs.Backtest.Loading
import DailySignals.Store.Files

/-!
# Files and memory are interchangeable

A directory and a memory that hold the same rows and bars answer alike.  They
give the rows of a history in different orders, and only one of them sorts where
no limit leaves rows out; but both keep the same rows of every date, in the order
in which these are held.  So whoever sorts the answer by date, as a run does,
cannot tell them apart.
-/

set_option autoImplicit false

namespace DailySignals

variable {α : Type}

theorem Snapshot.inDateOrder_congr_of_rowsOn {rows rows' : List (Snapshot α)}
    (same : ∀ date, rowsOn Snapshot.date date rows = rowsOn Snapshot.date date rows') :
    inDateOrder rows = inDateOrder rows' := by
  apply eq_of_rowsOn Snapshot.date _ _ (dateOrdered_inDateOrder rows)
    (dateOrdered_inDateOrder rows')
  intro date
  rw [rowsOn_inDateOrder, rowsOn_inDateOrder, same]

theorem Snapshot.perm_of_rowsOn {rows rows' : List (Snapshot α)}
    (same : ∀ date, rowsOn Snapshot.date date rows = rowsOn Snapshot.date date rows') :
    rows.Perm rows' := by
  have sorted : (inDateOrder rows).Perm rows := List.mergeSort_perm rows _
  rw [inDateOrder_congr_of_rowsOn same] at sorted
  exact sorted.symm.trans (List.mergeSort_perm rows' _)

namespace Source

/-! ## The most recent rows -/

theorem length_mostRecent (limit : Nat) (rows : List (Snapshot α)) :
    (mostRecent (some limit) rows).length = min limit rows.length := by
  rw [mostRecent, List.length_take, newestFirst, List.length_mergeSort]

/-- The rows that a limit leaves out. -/
def leftOut (limit : Option Nat) (rows : List (Snapshot α)) : List (Snapshot α) :=
  match limit with
  | none => []
  | some limit => (newestFirst rows).drop limit

theorem mostRecent_append_leftOut (limit : Option Nat) (rows : List (Snapshot α)) :
    mostRecent limit rows ++ leftOut limit rows = newestFirst rows := by
  cases limit with
  | none => exact List.append_nil _
  | some limit => exact List.take_append_drop limit _

theorem newestFirst_pairwise (rows : List (Snapshot α)) :
    (newestFirst rows).Pairwise fun first second => second.date ≤ first.date := by
  have sorted := List.pairwise_mergeSort
    (fun first second third later earlier =>
      notAfter_trans Snapshot.date third second first earlier later)
    (fun first second => notAfter_total Snapshot.date second first) rows
  exact sorted.imp fun before => of_decide_eq_true before

/-- The rows that a limit keeps are not older than those it leaves out. -/
theorem le_of_mem_leftOut {limit : Option Nat} {rows : List (Snapshot α)} {kept row : Snapshot α}
    (isKept : kept ∈ mostRecent limit rows) (isLeftOut : row ∈ leftOut limit rows) :
    row.date ≤ kept.date := by
  have sorted := newestFirst_pairwise rows
  rw [← mostRecent_append_leftOut limit rows, List.pairwise_append] at sorted
  exact sorted.2.2 kept isKept row isLeftOut

end Source

namespace FileStore

/-- The bars of a symbol in the order of its file. -/
def barsOf (store : FileStore) (symbol : String) :
    Except (Failure Float) (List (PriceBar Float)) :=
  match store.read (store.pricePath symbol) with
  | .error .missing | .error .notDirectory => .ok []
  | _ => store.table (store.pricePath symbol) (bar? symbol)

/-- What a directory gives are the bars of the file in date order. -/
theorem prices_of_barsOf {store : FileStore} {symbol : String} {bars : List (PriceBar Float)}
    (decoded : store.barsOf symbol = .ok bars) :
    store.prices symbol = .ok (PriceBar.inDateOrder bars) := by
  have none_sorted : PriceBar.inDateOrder ([] : List (PriceBar Float)) = [] :=
    List.mergeSort_nil
  have sorted : store.prices symbol = (store.barsOf symbol).map PriceBar.inDateOrder := by
    unfold prices barsOf
    dsimp only
    cases store.read (store.pricePath symbol) with
    | ok text => rfl
    | error fault =>
        cases fault with
        | missing => exact congrArg Except.ok none_sorted.symm
        | notDirectory => exact congrArg Except.ok none_sorted.symm
        | isDirectory => rfl
  rw [sorted, decoded]
  rfl

/-- A directory keeps the rows that memory keeps, those of one date in the same
order, whatever a limit leaves out. -/
theorem history_of_snapshots {files : FileStore} {memory : MemoryStore Float}
    (rows : files.snapshots = .ok memory.snapshots) (query : HistoryQuery) :
    ∃ kept, files.history query = .ok kept ∧
      ∀ date, rowsOn Snapshot.date date kept =
        rowsOn Snapshot.date date (memory.history query) := by
  rw [history, bind_of_ok rows, MemoryStore.history]
  cases query.limit with
  | none =>
      refine ⟨memory.snapshots.filter query.includes, rfl, ?_⟩
      intro date
      exact (Source.rowsOn_newestFirst date _).symm
  | some limit =>
      simp only
      split
      · exact ⟨_, rfl, fun _ => rfl⟩
      · rename_i few
        refine ⟨memory.snapshots.filter query.includes, rfl, ?_⟩
        intro date
        rw [Source.mostRecent_of_length_le (Nat.not_lt.mp few), Source.rowsOn_newestFirst]

end FileStore

namespace RunInputs

theorem load_of_no_rows {source : Source α} {symbol : String} {start finish : Date}
    (history : source.history (query symbol start finish) = .ok []) :
    load source symbol start finish = .error (.noData symbol) := by
  rw [query] at history
  simp only [load, history]
  rfl

/-- Sources that keep the same rows of every date, and have the same bars, load
the same inputs, or none have any. -/
theorem load_congr {source source' : Source α} {symbol : String} {start finish : Date}
    {rows rows' : List (Snapshot α)} {bars : List (PriceBar α)}
    (history : source.history (query symbol start finish) = .ok rows)
    (history' : source'.history (query symbol start finish) = .ok rows')
    (same : ∀ date, rowsOn Snapshot.date date rows = rowsOn Snapshot.date date rows')
    (prices : source.prices symbol = .ok bars) (prices' : source'.prices symbol = .ok bars) :
    (∃ inputs, load source symbol start finish = .ok inputs ∧
        load source' symbol start finish = .ok inputs) ∨
      load source symbol start finish = .error (.noData symbol) ∧
        load source' symbol start finish = .error (.noData symbol) := by
  have ordered := Snapshot.inDateOrder_congr_of_rowsOn same
  have sameRows : rows.Perm rows' := Snapshot.perm_of_rowsOn same
  by_cases found : rows = []
  · subst found
    rw [List.nil_perm] at sameRows
    subst sameRows
    exact .inr ⟨load_of_no_rows history, load_of_no_rows history'⟩
  · have found' : rows' ≠ [] := by
      rintro rfl
      exact found (List.perm_nil.mp sameRows)
    refine .inl ⟨_, load_of_answers history found prices, ?_⟩
    rw [load_of_answers history' found' prices', ordered]

end RunInputs

/-- A directory that decodes to the rows of a memory answers queries by date
alike, and gives the same rows of every history: where a limit leaves rows out,
none that is newer than one it keeps.  Where the price file of a symbol decodes
to its bars in memory, both have the same prices of it and load the same inputs
for a run, or find none. -/
theorem stores_interchangeable (files : FileStore) (memory : MemoryStore Float)
    (rows : files.snapshots = .ok memory.snapshots) :
    (∀ date filter, ∃ found, files.source.onDate date filter = .ok found ∧
        memory.source.onDate date filter = .ok found) ∧
      (∀ query : HistoryQuery, ∃ fromFiles fromMemory left,
        files.source.history query = .ok fromFiles ∧
        memory.source.history query = .ok fromMemory ∧
        fromFiles.Perm fromMemory ∧
        (memory.snapshots.filter query.includes).Perm (fromFiles ++ left) ∧
        (query.limit = none → left = []) ∧
        (∀ limit, query.limit = some limit → fromFiles.length =
          min limit (memory.snapshots.filter query.includes).length) ∧
        ∀ kept ∈ fromFiles, ∀ row ∈ left, row.date ≤ kept.date) ∧
      ∀ symbol, files.barsOf symbol = .ok (memory.barsOf symbol) →
        (∃ bars, files.source.prices symbol = .ok bars ∧
          memory.source.prices symbol = .ok bars) ∧
        ∀ start finish,
          (∃ inputs, RunInputs.load files.source symbol start finish = .ok inputs ∧
              RunInputs.load memory.source symbol start finish = .ok inputs) ∨
            RunInputs.load files.source symbol start finish = .error (.noData symbol) ∧
              RunInputs.load memory.source symbol start finish = .error (.noData symbol) := by
  refine ⟨?_, ?_, ?_⟩
  · intro date filter
    refine ⟨memory.onDate date filter, ?_, rfl⟩
    change files.onDate date filter = _
    rw [FileStore.onDate, bind_of_ok rows]
    rfl
  · -- both cut the same list, newest first; what follows the cut is left out
    intro query
    obtain ⟨kept, given, same⟩ := FileStore.history_of_snapshots rows query
    have sameRows : kept.Perm (memory.history query) := Snapshot.perm_of_rowsOn same
    have whole : (memory.snapshots.filter query.includes).Perm
        (kept ++ Source.leftOut query.limit (memory.snapshots.filter query.includes)) := by
      have all := Source.mostRecent_append_leftOut query.limit
        (memory.snapshots.filter query.includes)
      exact ((List.mergeSort_perm _ _).symm.trans (.of_eq all.symm)).trans
        (sameRows.symm.append_right _)
    refine ⟨kept, memory.history query, _, given, rfl, sameRows, whole, ?_, ?_, ?_⟩
    · intro unlimited
      rw [unlimited]
      rfl
    · intro limit limited
      rw [sameRows.length_eq, MemoryStore.history, limited, Source.length_mostRecent]
    · intro row isKept other isLeftOut
      exact Source.le_of_mem_leftOut (sameRows.mem_iff.mp isKept) isLeftOut
  · intro symbol decoded
    have prices : files.source.prices symbol = .ok (memory.prices symbol) :=
      FileStore.prices_of_barsOf decoded
    refine ⟨⟨_, prices, rfl⟩, ?_⟩
    intro start finish
    obtain ⟨_, given, same⟩ :=
      FileStore.history_of_snapshots rows (RunInputs.query symbol start finish)
    exact RunInputs.load_congr given rfl same prices rfl

namespace Sample

def analyticsText : String :=
  "symbol,trade_date,close,score,success\nBHP,2024-01-02,101,3,true\n" ++
    "CBA,2024-01-01,50,2,true\nBHP,2024-01-01,100,1,true\nBHP,2024-01-02,102,4,true\n"

def priceText : String :=
  "date,open,high,low,close,volume\n2024-01-02,101,101,101,101,10\n" ++
    "2024-01-01,100,100,100,100,10\n"

def directory : FileStore where
  base := "data"
  read path :=
    if path = "data/analytics.csv" then .ok analyticsText
    else if path = "data/prices/BHP.csv" then .ok priceText
    else .error .missing

/-- What the files of the directory decode to. -/
def decoded : MemoryStore Float where
  snapshots := directory.snapshots.toOption.getD []
  bars := (directory.barsOf "BHP").toOption.getD []

/-- The two most recent rows of an instrument. -/
def recent : HistoryQuery where
  symbol := "BHP"
  limit := some 2

theorem directory_rows :
    (directory.snapshots.toOption.map fun rows => (rows.filter recent.includes).length) =
      some 3 := by
  decide +kernel

theorem directory_bars :
    ((directory.barsOf "BHP").toOption.map fun bars =>
      bars.all fun bar => bar.symbol == "BHP") = some true := by
  decide +kernel

theorem directory_snapshots : directory.snapshots = .ok decoded.snapshots := by
  obtain ⟨rows, found, _⟩ := Option.map_eq_some_iff.mp directory_rows
  apply eq_ok_of_toOption
  rw [decoded, found]
  rfl

theorem decoded_rows : (decoded.snapshots.filter recent.includes).length = 3 := by
  obtain ⟨rows, found, three⟩ := Option.map_eq_some_iff.mp directory_rows
  rw [decoded, found]
  exact three

theorem directory_barsOf : directory.barsOf "BHP" = .ok (decoded.barsOf "BHP") := by
  obtain ⟨bars, found, own⟩ := Option.map_eq_some_iff.mp directory_bars
  have held : decoded.bars = bars := by
    rw [decoded, found]
    rfl
  have whole : decoded.barsOf "BHP" = bars := by
    rw [MemoryStore.barsOf, held]
    exact List.filter_eq_self.mpr (List.all_eq_true.mp own)
  apply eq_ok_of_toOption
  rw [whole, found]

end Sample

/-- Two of the three rows that the directory holds of an instrument, of which two
are of the same date, and its bars. -/
theorem stores_interchangeable_sample :
    Sample.directory.snapshots = .ok Sample.decoded.snapshots ∧
      Sample.directory.barsOf "BHP" = .ok (Sample.decoded.barsOf "BHP") ∧
      (∃ fromFiles fromMemory,
        Sample.directory.source.history Sample.recent = .ok fromFiles ∧
        Sample.decoded.source.history Sample.recent = .ok fromMemory ∧
        fromFiles.Perm fromMemory ∧ fromFiles.length = 2) ∧
      ∃ bars, Sample.directory.source.prices "BHP" = .ok bars ∧
        Sample.decoded.source.prices "BHP" = .ok bars := by
  obtain ⟨_, histories, symbols⟩ :=
    stores_interchangeable Sample.directory Sample.decoded Sample.directory_snapshots
  obtain ⟨fromFiles, fromMemory, _, files, memory, same, _, _, kept, _⟩ :=
    histories Sample.recent
  obtain ⟨prices, _⟩ := symbols "BHP" Sample.directory_barsOf
  have two : fromFiles.length = 2 := by
    rw [kept 2 rfl, Sample.decoded_rows]
    rfl
  exact ⟨Sample.directory_snapshots, Sample.directory_barsOf,
    ⟨fromFiles, fromMemory, files, memory, same, two⟩, prices⟩

end DailySignals
