import DailySignals.Main
import DailySignals.CommandLine.Directory
import DailySignals.Store.Memory
import DailySignals.Proofs.Backtest.Accounting
import DailySignals.Proofs.Backtest.Stored
import DailySignals.Proofs.Backtest.Causality
import DailySignals.Proofs.Backtest.Exits
import DailySignals.Proofs.Backtest.Entries
import DailySignals.Proofs.Forward.Completion
import DailySignals.Proofs.Screen.Listing
import DailySignals.Proofs.Screen.Streak
import DailySignals.Proofs.Condition.Grammar
import DailySignals.Proofs.Condition.Lexeme
import DailySignals.Proofs.Condition.Recognition
import DailySignals.Proofs.Condition.Acceptance
import DailySignals.Proofs.Condition.Regular
import DailySignals.Proofs.Condition.Rendering
import DailySignals.Proofs.Condition.Overflow
import DailySignals.Proofs.Scoring.ObjectText
import DailySignals.Proofs.Scoring.RuleList
import DailySignals.Proofs.Scoring.Inert
import DailySignals.Proofs.Forward.Schedule
import DailySignals.Proofs.Screen.Paging
import DailySignals.Proofs.Backtest.Loading
import DailySignals.Proofs.Backtest.Gaps
import DailySignals.Proofs.Delivery
import DailySignals.Proofs.Stores
import DailySignals.Proofs.Config.Agreement
import DailySignals.Proofs.Costs
import DailySignals.Proofs.Account
import DailySignals.Proofs.Backtest.Funding
import DailySignals.Proofs.Backtest.Trades
import DailySignals.Proofs.Drawdown
import DailySignals.Proofs.Summary
import DailySignals.Proofs.Scoring.WeightedMean
import DailySignals.Proofs.Live
import DailySignals.Proofs.Decay
import DailySignals.Proofs.Forward.Horizons
import DailySignals.Proofs.Screen.Recent
import DailySignals.Proofs.Screen.Ranking
import DailySignals.Proofs.Condition.Validity
import DailySignals.Proofs.Scoring.Recovery
import DailySignals.Proofs.Caret
import DailySignals.Proofs.Config.ScreenOrder
import DailySignals.Proofs.BarsByDate
import DailySignals.Proofs.Cursor.Reader
