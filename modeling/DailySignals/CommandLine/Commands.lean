import DailySignals.CommandLine.Arguments
import DailySignals.CommandLine.OutputPath
import DailySignals.CommandLine.Report
import DailySignals.CommandLine.Script
import DailySignals.Csv.Writer
import DailySignals.Ini.Document
import DailySignals.Json.Domain
import DailySignals.Screen.Run
import DailySignals.Store.Files

/-!
# The commands

Each command reads its configuration, checks it, makes what it describes, runs
it and reports.  Reports for people go to the error output; the records of a
live run go to the standard output, one line each.
-/

set_option autoImplicit false

namespace DailySignals

namespace Commands

/-- The outcome of a pure step. -/
def checked {β : Type} (outcome : Except (Failure Float) β) : Session β :=
  ExceptT.mk (.done outcome)

def notices (lines : List String) : Session Unit :=
  lines.forM Session.notice

/-- The settings in a file. -/
def settingsIn (path : String) : Session Settings := do
  match ← Session.readFile path with
  | .error fault =>
      throw (.unreadableConfig path ("couldn't read " ++ path ++ ": " ++ fault.text))
  | .ok text =>
      match Ini.parse text with
      | .ok ini => return ini.settings
      | .error fault =>
          throw (.unreadableConfig path ("couldn't read " ++ path ++ ": " ++ fault.message))

def loadConfig (path : String) : Session Settings := do
  Session.notice ("Loading config from " ++ path)
  settingsIn path

/-- The strategy that some settings describe. -/
def strategyOf (settings : Settings) : Session (Strategy Float) := do
  checked (Config.checkStrategy settings)
  checked (Config.strategy settings)

/-- The strategy in a file of its own, if one is named, else in the main one. -/
def resolveStrategy (settings : Settings) (path : Option String) :
    Session (Strategy Float) := do
  let strategy ← match path with
    | some path => do
        Session.notice ("Loading strategy from " ++ path)
        strategyOf (← settingsIn path)
    | none => strategyOf settings
  Session.notice ("Loading strategy: " ++ Report.titled strategy)
  return strategy

/-- The data below a directory, as far as runs on one symbol read it. -/
def dataFor (base : String) (symbol : Option String) : Session (Source Float) := do
  let nothing : FileStore := ⟨base, fun _ => .error .missing⟩
  let analytics ← Session.readFile nothing.analyticsPath
  let prices ← match symbol with
    | some symbol => Session.readFile (nothing.pricePath symbol)
    | none => pure (.error .missing)
  let store : FileStore :=
    ⟨base, fun path => if path = nothing.analyticsPath then analytics else prices⟩
  return store.source

def defaultTradesPath : String := "trades.csv"

def backtest (config : String) (strategyPath output : Option String) : Session Unit := do
  let settings ← loadConfig config
  checked (Config.checkData settings)
  checked (Config.checkBacktest settings)
  let strategy ← resolveStrategy settings strategyPath
  let period ← checked (Config.period settings)
  let source ← dataFor (← checked (Config.dataPath settings)) (some strategy.symbol)
  let inputs ← checked (RunInputs.load source strategy.symbol period.start period.finish)
  Session.notice ("Running backtest: " ++ period.start.text ++ " to " ++ period.finish.text ++
    ", " ++ toString inputs.history.length ++ " snapshots, " ++ toString inputs.series.size ++
    " price bars")
  let result ← checked
    (Backtest.run strategy period inputs.history inputs.series Registry.builtin)
  notices (Report.backtest strategy period result)
  let tradesPath := output.getD defaultTradesPath
  let curvePath := OutputPath.equityCurve tradesPath
  Session.writeFile tradesPath (Csv.ofTrades result.trades)
  Session.writeFile curvePath (Csv.ofCurve result.curve)
  notices ["\nTrades written to: " ++ tradesPath, "Equity curve written to: " ++ curvePath]

def screen (config : String) (date : Option Date) (preset : Option String) :
    Session Unit := do
  let settings ← loadConfig config
  checked (Config.checkData settings)
  checked (Config.checkScreener settings)
  let request ← checked (Config.screen settings date preset)
  let source ← dataFor (← checked (Config.dataPath settings)) none
  Session.notice ("Screening " ++ request.label ++ " on " ++ request.date.text ++ ": " ++
    request.conditions.text)
  let page ← checked
    (Screen.run source request.date request.conditions request.order request.page)
  let rows ← checked
    (Screen.confirmStreak source page.rows request.date request.conditions request.streakDays)
  notices (Report.screen request.order rows)
  Session.notice (Report.screenTotals rows.length page.total page.hasMore)

def forward (config : String) (strategyPath : Option String) : Session Unit := do
  let settings ← loadConfig config
  checked (Config.checkData settings)
  checked (Config.checkBacktest settings)
  let strategy ← resolveStrategy settings strategyPath
  let period ← checked (Config.period settings)
  let horizons ← checked (Config.studyHorizons settings)
  let source ← dataFor (← checked (Config.dataPath settings)) (some strategy.symbol)
  let inputs ← checked (RunInputs.load source strategy.symbol period.start period.finish)
  let study ← checked (ForwardStudy.run strategy inputs.history horizons Registry.builtin)
  notices (Report.forward strategy study)

def runOnce (config : String) (strategyPath : Option String) (environment : String)
    (today : Date) : Session Unit := do
  let environment ← checked
    ((Environment.ofName environment).mapError fun name => .invalid (.environment name))
  let settings ← loadConfig config
  checked (Config.checkData settings)
  let strategy ← resolveStrategy settings strategyPath
  let source ← dataFor (← checked (Config.dataPath settings)) (some strategy.symbol)
  let records ← checked (Live.run strategy source Registry.builtin today environment)
  records.forM fun record => Session.result record.toJson.write
  Session.notice (toString records.length ++ " trade record(s) for " ++ strategy.symbol ++
    " on " ++ today.text ++ " [" ++ environment.name ++ "]")

def validate (path : String) : Session Unit := do
  Session.notice ("Validating strategy: " ++ path)
  let strategy ← strategyOf (← settingsIn path)
  notices (Report.strategy strategy)

/-- What a command does; `today` stands in for a date that is not given. -/
def session (today : Date) : Command → Session Unit
  | .backtest config strategy output => backtest config strategy output
  | .screen config date preset => screen config date preset
  | .forward config strategy => forward config strategy
  | .runOnce config strategy environment date =>
      runOnce config strategy environment (date.getD today)
  | .validate strategy => validate strategy

/-- A command as a script that ends with its exit code. -/
def script (today : Date) (command : Command) : Script Nat := do
  match ← (session today command).run with
  | .ok () => return 0
  | .error failure =>
      let report := (Report.failure failure).foldr
        (fun line next => Script.notice (line ++ "\n") next) (.done ())
      report
      return failure.exitCode

end Commands

end DailySignals
