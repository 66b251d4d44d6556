import DailySignals.Proofs.Backtest.Accounting

/-!
# An account under any operations

Whoever holds an account may open, close, value and record in any order, with
any positions and trades.  What an operation can do is stated once, with one
case for each way it can go (`Outcome`); every law of an account is proved of
these cases and carried along the operations.
-/

set_option autoImplicit false

namespace DailySignals

variable {α : Type}

/-- What can be done to an account. -/
inductive Operation (α : Type) where
  | opening (position : Position α)
  | closing (trade : Trade α)
  | marking (date : Date) (close : α)
  | recording (date : Date) (equity : α)

/-- What an account answers to an operation. -/
inductive Answer (α : Type) where
  | opened (accepted : Bool)
  | closed (released : Option (Position α))
  | done

def Answer.isOpened : Answer α → Bool
  | .opened accepted => accepted
  | _ => false

namespace Portfolio

variable [Arithmetic α]

/-- The answer to an operation and the account after it, which is the account
before it where the operation is refused. -/
def perform (portfolio : Portfolio α) : Operation α → Answer α × Portfolio α
  | .opening position =>
      let opened := portfolio.opening? position
      (.opened opened.isSome, opened.getD portfolio)
  | .closing trade =>
      let closed := portfolio.closing? trade
      (.closed (closed.map (·.1)), (closed.map (·.2)).getD portfolio)
  | .marking date close => (.done, portfolio.markToMarket date close)
  | .recording date equity => (.done, portfolio.recordEquity date equity)

/-- The answers to some operations, one after another, and the account after them. -/
def performAll (portfolio : Portfolio α) : List (Operation α) → List (Answer α) × Portfolio α
  | [] => ([], portfolio)
  | operation :: rest =>
      let (answer, next) := portfolio.perform operation
      let (answers, final) := next.performAll rest
      (answer :: answers, final)

/-- The ways in which an operation can go. -/
inductive Outcome (portfolio : Portfolio α) : Operation α → Answer α → Portfolio α → Prop where
  | opened {position : Position α} (free : portfolio.position = none) :
      Outcome portfolio (.opening position) (.opened true) (portfolio.holding position)
  | occupied {position held : Position α} (holds : portfolio.position = some held) :
      Outcome portfolio (.opening position) (.opened false) portfolio
  | closed {trade : Trade α} {held : Position α} (holds : portfolio.position = some held) :
      Outcome portfolio (.closing trade) (.closed (some held)) (portfolio.released held trade)
  | flat {trade : Trade α} (free : portfolio.position = none) :
      Outcome portfolio (.closing trade) (.closed none) portfolio
  | marked {date : Date} {close : α} :
      Outcome portfolio (.marking date close) .done (portfolio.markToMarket date close)
  | recorded {date : Date} {equity : α} :
      Outcome portfolio (.recording date equity) .done (portfolio.recordEquity date equity)

variable {portfolio after : Portfolio α} {operation : Operation α} {answer : Answer α}

theorem perform_eq_iff :
    portfolio.perform operation = (answer, after) ↔ Outcome portfolio operation answer after := by
  constructor
  · intro performed
    cases operation with
    | opening position =>
        cases holds : portfolio.position with
        | none =>
            rw [perform, opening?_of_flat holds] at performed
            cases performed
            exact .opened holds
        | some held =>
            simp only [perform, opening?, holds] at performed
            cases performed
            exact .occupied holds
    | closing trade =>
        cases holds : portfolio.position with
        | none =>
            simp only [perform, closing?, holds] at performed
            cases performed
            exact .flat holds
        | some held =>
            rw [perform, closing?_of_held holds] at performed
            cases performed
            exact .closed holds
    | marking date close =>
        cases performed
        exact .marked
    | recording date equity =>
        cases performed
        exact .recorded
  · intro outcome
    cases outcome with
    | opened free =>
        rw [perform, opening?_of_flat free]
        rfl
    | occupied holds =>
        simp only [perform, opening?, holds]
        rfl
    | closed holds =>
        rw [perform, closing?_of_held holds]
        rfl
    | flat free =>
        simp only [perform, closing?, free]
        rfl
    | marked => rfl
    | recorded => rfl

theorem outcome_perform (portfolio : Portfolio α) (operation : Operation α) :
    Outcome portfolio operation (portfolio.perform operation).1
      (portfolio.perform operation).2 :=
  perform_eq_iff.mp rfl

/-- What is recorded stays, and what is new comes after it. -/
theorem Outcome.grows (outcome : Outcome portfolio operation answer after) :
    portfolio.trades <+: after.trades ∧ portfolio.curve <+: after.curve := by
  cases outcome with
  | opened => exact ⟨List.prefix_refl _, List.prefix_refl _⟩
  | occupied => exact ⟨List.prefix_refl _, List.prefix_refl _⟩
  | closed => exact ⟨List.prefix_append _ _, List.prefix_refl _⟩
  | flat => exact ⟨List.prefix_refl _, List.prefix_refl _⟩
  | marked => exact ⟨List.prefix_refl _, List.prefix_append _ _⟩
  | recorded => exact ⟨List.prefix_refl _, List.prefix_append _ _⟩

theorem performAll_grows (portfolio : Portfolio α) (operations : List (Operation α)) :
    portfolio.trades <+: (portfolio.performAll operations).2.trades ∧
      portfolio.curve <+: (portfolio.performAll operations).2.curve := by
  induction operations generalizing portfolio with
  | nil => exact ⟨List.prefix_refl _, List.prefix_refl _⟩
  | cons operation rest ih =>
      have first := (outcome_perform portfolio operation).grows
      have later := ih (portfolio.perform operation).2
      exact ⟨first.1.trans later.1, first.2.trans later.2⟩

theorem length_performAll (portfolio : Portfolio α) (operations : List (Operation α)) :
    (portfolio.performAll operations).1.length = operations.length := by
  induction operations generalizing portfolio with
  | nil => rfl
  | cons operation rest ih => exact congrArg (· + 1) (ih (portfolio.perform operation).2)

/-- An account that began with `initial` and on which `opened` openings were
accepted: its money is accounted for, each opening became a trade or is the open
position, and the last exit is that of the last trade. -/
structure Coherent (initial : Rat) (opened : Nat) (portfolio : Portfolio Rat) : Prop where
  cash_eq : portfolio.cash + portfolio.openCost = initial + totalProfit portfolio.trades
  opened_eq : opened = portfolio.trades.length + portfolio.position.toList.length
  lastExit_eq : portfolio.lastExit = portfolio.trades.getLast?.map (·.exitDate)

theorem coherent_start (initial : Rat) : Coherent initial 0 (start initial) where
  cash_eq := (balanced_start initial).cash_eq
  opened_eq := rfl
  lastExit_eq := rfl

variable {initial : Rat} {opened : Nat}

theorem Outcome.coherent {portfolio after : Portfolio Rat} {operation : Operation Rat}
    {answer : Answer Rat} (outcome : Outcome portfolio operation answer after)
    (coherent : Coherent initial opened portfolio) :
    Coherent initial (opened + if answer.isOpened then 1 else 0) after := by
  obtain ⟨cash, count, lastExit⟩ := coherent
  cases outcome with
  | @opened position free =>
      refine ⟨cash_holding free position cash, ?_, lastExit⟩
      rw [count, free]
      rfl
  | occupied => exact ⟨cash, count, lastExit⟩
  | @closed trade held holds =>
      refine ⟨cash_released holds trade cash, ?_, ?_⟩
      · rw [count, holds]
        simp [released, Answer.isOpened]
      · simp [released]
  | flat => exact ⟨cash, count, lastExit⟩
  | marked => exact ⟨cash, count, lastExit⟩
  | recorded => exact ⟨cash, count, lastExit⟩

theorem performAll_coherent {portfolio : Portfolio Rat}
    (coherent : Coherent initial opened portfolio) (operations : List (Operation Rat)) :
    Coherent initial
      (opened + (portfolio.performAll operations).1.countP Answer.isOpened)
      (portfolio.performAll operations).2 := by
  induction operations generalizing portfolio opened with
  | nil => exact coherent
  | cons operation rest ih =>
      have first := (outcome_perform portfolio operation).coherent coherent
      have later := ih first
      -- `countP_cons` counts the first answer after the others
      rw [Nat.add_assoc, Nat.add_comm (ite _ _ _)] at later
      rw [performAll, List.countP_cons]
      exact later

/-- After any operations on a new account its cash and the cost of the open
position are the money of the start and the profit of the trades; the openings
that were accepted are the trades and the open position; the last exit is that
of the last trade; and further operations only add to the end of the trades and
of the curve.  An account that holds a position refuses another, one that holds
none has nothing to close, and neither changes it. -/
theorem performAll_accounted (initial : Rat) (operations : List (Operation Rat)) :
    ∃ answers account, (start initial).performAll operations = (answers, account) ∧
      answers.length = operations.length ∧
      account.cash + account.openCost = initial + totalProfit account.trades ∧
      ((answers.countP Answer.isOpened : Int) - account.trades.length =
        if account.hasPosition then 1 else 0) ∧
      account.lastExit = account.trades.getLast?.map (·.exitDate) ∧
      (∀ more, account.trades <+: (account.performAll more).2.trades ∧
        account.curve <+: (account.performAll more).2.curve) ∧
      (∀ held, account.position = some held →
        (∀ position, account.perform (.opening position) = (.opened false, account)) ∧
          ∀ trade, account.perform (.closing trade) =
            (.closed (some held), account.released held trade)) ∧
      (account.position = none →
        (∀ position, account.perform (.opening position) =
            (.opened true, account.holding position)) ∧
          ∀ trade, account.perform (.closing trade) = (.closed none, account)) := by
  have coherent := performAll_coherent (coherent_start initial) operations
  rw [Nat.zero_add] at coherent
  refine ⟨_, _, rfl, length_performAll _ _, coherent.cash_eq, ?_, coherent.lastExit_eq,
    performAll_grows _, ?_, ?_⟩
  · rw [coherent.opened_eq, hasPosition]
    cases ((start initial).performAll operations).2.position with
    | none => simp
    | some held => simp
  · intro held holds
    exact ⟨fun _ => perform_eq_iff.mpr (.occupied holds),
      fun _ => perform_eq_iff.mpr (.closed holds)⟩
  · intro free
    exact ⟨fun _ => perform_eq_iff.mpr (.opened free), fun _ => perform_eq_iff.mpr (.flat free)⟩

end Portfolio

end DailySignals
