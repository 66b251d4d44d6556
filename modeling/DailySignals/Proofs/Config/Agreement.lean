import DailySignals.Proofs.Config.RiskKeys

/-!
# A configuration that passes its checks can be used

The checks look at a configuration before anything is made of it.  They promise
that what is made later does not fail on a key that is missing or cannot be read;
what is left are texts to be parsed, and values that only fail together.  In the
other direction nothing is refused that could have been used.
-/

set_option autoImplicit false

namespace DailySignals

namespace Config

variable {settings : Settings} {key : String}

/-! ## Strategies -/

theorem checkThresholds_eq_ok :
    checkThresholds settings = .ok () ↔
      (∃ entry, entryThreshold settings = .ok entry ∧ entry.isFinite = true) ∧
        ∃ exit, settings.float? "strategy" "exit_threshold" = .ok exit ∧
          exit.all Float.isFinite = true := by
  unfold checkThresholds entryThreshold
  simp only [bind_eq_ok]
  constructor
  · rintro ⟨text, found, checked⟩
    obtain ⟨finite, checked⟩ := guard_eq_ok.mp checked
    rw [Bool.not_eq_true', Bool.not_eq_false, Option.any_eq_true] at finite
    obtain ⟨entry, number, finite⟩ := finite
    refine ⟨⟨entry, ⟨text, found, ?_⟩, finite⟩, checkNumber_eq_ok.mp checked⟩
    rw [number]
    rfl
  · rintro ⟨⟨entry, ⟨text, found, number⟩, finite⟩, fits⟩
    refine ⟨text, found, guard_eq_ok.mpr ⟨?_, checkNumber_eq_ok.mpr fits⟩⟩
    cases read : Numeral.float? text with
    | none => simp [read] at number
    | some value =>
        rw [read] at number
        cases number
        simp [finite]

/-- The keys of its mode are there, and its thresholds are numbers. -/
def SignalKeys (settings : Settings) : Mode → Prop
  | .conditions =>
      (∃ buy, settings.require "strategy" "buy" = .ok buy) ∧
        ∃ sell, settings.require "strategy" "sell" = .ok sell
  | .scoring =>
      (∃ rules, settings.require "strategy" "entry_rules" = .ok rules) ∧
        checkThresholds settings = .ok ()

theorem checkStrategy_eq_ok :
    checkStrategy settings = .ok () ↔
      (∃ name, settings.require "strategy" "name" = .ok name) ∧
        (∃ symbol, settings.require "strategy" "symbol" = .ok symbol) ∧
        (∃ described, mode settings = .ok described ∧ SignalKeys settings described) ∧
        checkRisk settings = .ok () := by
  unfold checkStrategy
  simp only [bind_eq_ok]
  constructor
  · rintro ⟨name, named, symbol, traded, described, found, checked⟩
    refine ⟨⟨name, named⟩, ⟨symbol, traded⟩, ?_⟩
    cases described with
    | conditions =>
        obtain ⟨buy, bought, checked⟩ := bind_eq_ok.mp checked
        obtain ⟨sell, sold, checked⟩ := bind_eq_ok.mp checked
        exact ⟨⟨_, found, ⟨buy, bought⟩, sell, sold⟩, checked⟩
    | scoring =>
        obtain ⟨rules, written, checked⟩ := bind_eq_ok.mp checked
        obtain ⟨thresholds, checked⟩ := check_bind_eq_ok.mp checked
        exact ⟨⟨_, found, ⟨rules, written⟩, thresholds⟩, checked⟩
  · rintro ⟨⟨name, named⟩, ⟨symbol, traded⟩, ⟨described, found, keys⟩, checked⟩
    refine ⟨name, named, symbol, traded, described, found, ?_⟩
    cases described with
    | conditions =>
        obtain ⟨⟨buy, bought⟩, sell, sold⟩ := keys
        exact bind_eq_ok.mpr ⟨buy, bought, bind_eq_ok.mpr ⟨sell, sold, checked⟩⟩
    | scoring =>
        obtain ⟨⟨rules, written⟩, thresholds⟩ := keys
        exact bind_eq_ok.mpr ⟨rules, written, check_bind_eq_ok.mpr ⟨thresholds, checked⟩⟩

theorem strategy_eq_ok {built : Strategy Float} :
    strategy settings = .ok built ↔
      settings.require "strategy" "name" = .ok built.name ∧
        settings.require "strategy" "symbol" = .ok built.symbol ∧
        built.description = (settings.text? "strategy" "description").getD "" ∧
        signals settings = .ok built.signals ∧ risk settings = .ok built.risk ∧
        built.validate = .ok () := by
  unfold strategy
  simp only [bind_eq_ok, mapError_eq_ok, pure_eq_ok]
  constructor
  · rintro ⟨name, named, symbol, traded, signals, read, risk, limited, ⟨⟩, valid, rfl⟩
    exact ⟨named, traded, rfl, read, limited, valid⟩
  · rintro ⟨named, traded, described, read, limited, valid⟩
    obtain ⟨name, description, symbol, signals, risk⟩ := built
    cases described
    exact ⟨name, named, symbol, traded, signals, read, risk, limited, (), valid, rfl⟩

/-- Only a text that is not there has no rules. -/
theorem require_of_rules {rules : List (ScoringRule Float)} {side : RuleSide}
    (read : Config.rules settings key side = .ok rules) (some_rule : rules.isEmpty = false) :
    ∃ text, settings.require "strategy" key = .ok text := by
  cases found : settings.text? "strategy" key with
  | some text => exact ⟨text, Settings.require_eq_ok.mpr found⟩
  | none =>
      have none_read : Config.rules settings key side = .ok [] := by
        rw [Config.rules, found]
        rfl
      rw [none_read] at read
      cases read
      cases some_rule

theorem signalKeys_of_signals {built : Signals Float} (read : signals settings = .ok built)
    (valid : Strategy.validateSignals built = .ok ()) :
    ∃ described, mode settings = .ok described ∧ SignalKeys settings described := by
  unfold signals at read
  obtain ⟨described, found, read⟩ := bind_eq_ok.mp read
  refine ⟨described, found, ?_⟩
  cases described with
  | conditions =>
      obtain ⟨_, readBuy, read⟩ := bind_eq_ok.mp read
      obtain ⟨_, readSell, _⟩ := bind_eq_ok.mp read
      obtain ⟨buy, bought, _⟩ := bind_eq_ok.mp readBuy
      obtain ⟨sell, sold, _⟩ := bind_eq_ok.mp readSell
      exact ⟨⟨buy, bought⟩, sell, sold⟩
  | scoring =>
      -- validation has seen to it that there is an entry rule and that thresholds are finite
      obtain ⟨entryRules, readEntryRules, read⟩ := bind_eq_ok.mp read
      obtain ⟨exitRules, _, read⟩ := bind_eq_ok.mp read
      obtain ⟨entry, readEntry, read⟩ := bind_eq_ok.mp read
      obtain ⟨exit, readExit, read⟩ := bind_eq_ok.mp read
      cases read
      obtain ⟨some_rule, ⟨entryFinite, exitFinite⟩, _⟩ :=
        Strategy.validateSignals_scoring_eq_ok.mp valid
      have exitFits := (getD_fits (by decide +kernel)).mp exitFinite
      exact ⟨require_of_rules readEntryRules some_rule,
        checkThresholds_eq_ok.mpr ⟨⟨entry, readEntry, entryFinite⟩, exit, readExit, exitFits⟩⟩

theorem checkStrategy_of_strategy {built : Strategy Float}
    (found : strategy settings = .ok built) : checkStrategy settings = .ok () := by
  obtain ⟨named, traded, _, read, limited, valid⟩ := strategy_eq_ok.mp found
  obtain ⟨_, _, signalsValid, riskValid⟩ := Strategy.validate_eq_ok.mp valid
  have admissible := (RiskSettings.validate_eq_ok.mp riskValid).1
  exact checkStrategy_eq_ok.mpr ⟨⟨_, named⟩, ⟨_, traded⟩, signalKeys_of_signals read signalsValid,
    checkRisk_iff_risk.mpr ⟨_, limited, admissible⟩⟩

/-- Failures of texts that do not parse. -/
inductive IsUnparsed : Failure Float → Prop
  | intro (fault : SyntaxFault) (setting : Option TextSetting) :
      IsUnparsed (.unparsed fault setting)

/-- Failures of what a configuration says, not of the way it says it. -/
inductive IsOfContent : Failure Float → Prop
  | unparsed (fault : SyntaxFault) (setting : Option TextSetting) :
      IsOfContent (.unparsed fault setting)
  | invalid (cause : Invalid Float) : IsOfContent (.invalid cause)

theorem parsed_failsOnly {β : Type} {parse : String → Except SyntaxFault β} {text : String} :
    FailsOnly IsUnparsed (parsed parse key text) :=
  FailsOnly.mapError fun fault => .intro fault _

theorem conditions_failsOnly {text : String}
    (found : settings.require "strategy" key = .ok text) :
    FailsOnly IsUnparsed (conditions settings key) :=
  (FailsOnly.of_ok found).bind fun _ _ => parsed_failsOnly

theorem signals_failsOnly {described : Mode} (found : mode settings = .ok described)
    (keys : SignalKeys settings described) : FailsOnly IsUnparsed (signals settings) := by
  unfold signals
  rw [bind_of_ok found]
  cases described with
  | conditions =>
      obtain ⟨⟨buy, bought⟩, sell, sold⟩ := keys
      refine (conditions_failsOnly bought).bind fun _ _ => ?_
      exact (conditions_failsOnly sold).bind fun _ _ => .of_ok rfl
  | scoring =>
      obtain ⟨_, thresholds⟩ := keys
      obtain ⟨⟨entry, readEntry, _⟩, exit, readExit, _⟩ := checkThresholds_eq_ok.mp thresholds
      refine parsed_failsOnly.bind fun _ _ => parsed_failsOnly.bind fun _ _ => ?_
      rw [bind_of_ok readEntry, bind_of_ok readExit]
      exact .of_ok rfl

theorem strategy_failsOnly (checked : checkStrategy settings = .ok ()) :
    FailsOnly IsOfContent (strategy settings) := by
  obtain ⟨⟨name, named⟩, ⟨symbol, traded⟩, ⟨described, found, keys⟩, riskChecked⟩ :=
    checkStrategy_eq_ok.mp checked
  obtain ⟨risk, limited, _⟩ := checkRisk_iff_risk.mp riskChecked
  have signalsFail : FailsOnly IsOfContent (signals settings) :=
    (signals_failsOnly found keys).mono fun _ ⟨fault, setting⟩ => .unparsed fault setting
  unfold strategy
  rw [bind_of_ok named, bind_of_ok traded]
  refine signalsFail.bind fun signals _ => ?_
  rw [bind_of_ok limited]
  exact (FailsOnly.mapError fun defect => .invalid _).bind fun _ _ => .of_ok rfl

/-! ## Periods -/

theorem period_eq_ok {built : Period Float} :
    period settings = .ok built ↔
      settings.date "backtest" "start_date" = .ok built.start ∧
        settings.date "backtest" "end_date" = .ok built.finish ∧
        ∃ equity, settings.float? "backtest" "initial_equity" = .ok equity ∧
          equity.getD defaultEquity = built.equity := by
  unfold period
  simp only [bind_eq_ok, pure_eq_ok]
  constructor
  · rintro ⟨start, started, finish, finished, equity, read, rfl⟩
    exact ⟨started, finished, equity, read, rfl⟩
  · rintro ⟨started, finished, equity, read, whole⟩
    obtain ⟨start, finish, _⟩ := built
    cases whole
    exact ⟨start, started, finish, finished, equity, read, rfl⟩

theorem checkHorizons_eq_ok :
    (match settings.text? "backtest" "horizons" with
      | none => pure ()
      | some text => do let _ ← horizons text) = (.ok () : Checked Unit) ↔
      ∃ lengths, studyHorizons settings = .ok lengths := by
  unfold studyHorizons
  cases settings.text? "backtest" "horizons" with
  | none => simp
  | some text =>
      refine bind_eq_ok.trans (exists_congr fun lengths => ?_)
      simp only [pure_eq_ok, and_true]

theorem checkBacktest_iff_period :
    checkBacktest settings = .ok () ↔
      ∃ built lengths, period settings = .ok built ∧ built.validate = .ok () ∧
        studyHorizons settings = .ok lengths := by
  have usable : RiskSettings.isSize defaultEquity = true := by decide +kernel
  unfold checkBacktest
  simp only [bind_eq_ok, period_eq_ok, Period.validate_eq_ok]
  constructor
  · rintro ⟨start, started, finish, finished, checked⟩
    obtain ⟨ordered, checked⟩ := guard_eq_ok.mp checked
    obtain ⟨equityChecked, checked⟩ := check_bind_eq_ok.mp checked
    obtain ⟨equity, read, fits⟩ := checkNumber_eq_ok.mp equityChecked
    obtain ⟨lengths, listed⟩ := checkHorizons_eq_ok.mp checked
    exact ⟨⟨start, finish, equity.getD defaultEquity⟩, lengths,
      ⟨started, finished, equity, read, rfl⟩, ⟨ordered, (getD_fits usable).mpr fits⟩, listed⟩
  · rintro ⟨⟨start, finish, _⟩, lengths, ⟨started, finished, equity, read, rfl⟩,
      ⟨ordered, fits⟩, listed⟩
    refine ⟨start, started, finish, finished,
      guard_eq_ok.mpr ⟨ordered, check_bind_eq_ok.mpr ⟨?_, ?_⟩⟩⟩
    · exact checkNumber_eq_ok.mpr ⟨equity, read, (getD_fits usable).mp fits⟩
    · exact checkHorizons_eq_ok.mpr ⟨lengths, listed⟩

/-! ## Screens -/

theorem checkScreener_eq_ok :
    checkScreener settings = .ok () ↔
      (∃ date, settings.date? "screener" "date" = .ok date) ∧
        (∃ offset, settings.count64? "screener" "offset" = .ok offset) ∧
        (∃ limit, settings.count64? "screener" "limit" = .ok limit) ∧
        ∃ days, settings.count64? "screener" "streak_days" = .ok days := by
  unfold checkScreener
  simp only [bind_eq_ok, pure_eq_ok, and_true, exists_and_right]

/-- What a screen lacks when its settings pass their check. -/
inductive ScreenLacks (settings : Settings) (givenDate : Option Date)
    (givenPreset : Option String) : Failure Float → Prop
  | date (notGiven : givenDate = none) (absent : settings.text? "screener" "date" = none) :
      ScreenLacks settings givenDate givenPreset (.missingKey "screener" "date")
  | preset (id : String) (asked : givenPreset.or (settings.text? "screener" "preset") = some id)
      (unknown : (Preset.find? id : Option (Preset Float)) = none) :
      ScreenLacks settings givenDate givenPreset
        (.badValue "screener" "preset" ("unknown preset '" ++ id ++ "'"))
  | unparsed (fault : SyntaxFault) (setting : Option TextSetting) :
      ScreenLacks settings givenDate givenPreset (.unparsed fault setting)

theorem screenDate_failsOnly {found : Option Date}
    (read : settings.date? "screener" "date" = .ok found) (givenDate : Option Date)
    (givenPreset : Option String) :
    FailsOnly (ScreenLacks settings givenDate givenPreset) (screenDate settings givenDate) := by
  unfold screenDate
  cases givenDate with
  | some date => exact .of_ok rfl
  | none =>
      dsimp only
      rw [bind_of_ok read]
      cases found with
      | some date => exact .of_ok rfl
      | none => exact .of_error rfl (.date rfl (Settings.date?_eq_none.mp read))

theorem screen_failsOnly (checked : checkScreener settings = .ok ()) (givenDate : Option Date)
    (givenPreset : Option String) :
    FailsOnly (ScreenLacks settings givenDate givenPreset)
      (screen settings givenDate givenPreset) := by
  obtain ⟨⟨_, readDate⟩, ⟨offset, readOffset⟩, ⟨limit, readLimit⟩, days, readDays⟩ :=
    checkScreener_eq_ok.mp checked
  unfold screen
  refine (screenDate_failsOnly readDate givenDate givenPreset).bind fun date _ => ?_
  rw [bind_of_ok readOffset, bind_of_ok readLimit, bind_of_ok readDays]
  dsimp only
  split
  · rename_i id asked
    split
    · exact .of_ok rfl
    · rename_i unknown
      exact .of_error rfl (.preset id asked unknown)
  · split
    · refine FailsOnly.bind (parsed_failsOnly.mono ?_) fun _ _ => .of_ok rfl
      rintro _ ⟨fault, setting⟩
      exact .unparsed fault setting
    · exact .of_ok rfl

/-- The checks of a configuration and what is made of it agree.  A strategy whose
check passes can only fail on its texts and on values that validation refuses, and
every strategy that can be made passes its check.  A period passes its check
exactly when it can be made and is valid, and its horizons can be read.  A screen
whose check passes can only lack a date, a known preset or a text that parses. -/
theorem checks_agree (settings : Settings) :
    (checkStrategy settings = .ok () → FailsOnly IsOfContent (strategy settings)) ∧
      ((∃ built, strategy settings = .ok built) → checkStrategy settings = .ok ()) ∧
      (checkBacktest settings = .ok () ↔
        ∃ built lengths, period settings = .ok built ∧ built.validate = .ok () ∧
          studyHorizons settings = .ok lengths) ∧
      (checkScreener settings = .ok () → ∀ givenDate givenPreset,
        FailsOnly (ScreenLacks settings givenDate givenPreset)
          (screen settings givenDate givenPreset)) :=
  ⟨strategy_failsOnly, fun ⟨_, found⟩ => checkStrategy_of_strategy found,
    checkBacktest_iff_period, screen_failsOnly⟩

end Config

namespace Sample

/-- A configuration with these conditions to buy on, and no date for a screen. -/
def configured (buy : String) : Settings where
  value? group key :=
    [(("strategy", "name"), "sample"), (("strategy", "symbol"), "XYZ"),
      (("strategy", "buy"), buy), (("strategy", "sell"), "LT(score, 40)"),
      (("risk", "order_size_value"), "500"), (("backtest", "start_date"), "2024-01-01"),
      (("backtest", "end_date"), "2024-03-31"), (("screener", "limit"), "10")].lookup (group, key)

end Sample

namespace Config

/-- A text that does not parse passes the check of a strategy and keeps it from being
made; a date that is absent does the same to a screen. -/
theorem checks_agree_sample :
    checkStrategy (Sample.configured "GTE(score") = .ok () ∧
      (strategy (Sample.configured "GTE(score")).toBool = false ∧
      FailsOnly IsOfContent (strategy (Sample.configured "GTE(score")) ∧
      checkStrategy (Sample.configured "GTE(score, 60)") = .ok () ∧
      (∃ built lengths, period (Sample.configured "GTE(score, 60)") = .ok built ∧
        built.validate = .ok () ∧
        studyHorizons (Sample.configured "GTE(score, 60)") = .ok lengths) ∧
      (screen (Sample.configured "GTE(score, 60)") none none).toBool = false ∧
      FailsOnly (ScreenLacks (Sample.configured "GTE(score, 60)") none none)
        (screen (Sample.configured "GTE(score, 60)") none none) := by
  obtain ⟨strategyFails, _⟩ := checks_agree (Sample.configured "GTE(score")
  obtain ⟨_, strategyPasses, periodPasses, screenFails⟩ :=
    checks_agree (Sample.configured "GTE(score, 60)")
  have checked : checkStrategy (Sample.configured "GTE(score") = .ok () :=
    eq_ok_of_toBool (by decide +kernel)
  have built : (strategy (Sample.configured "GTE(score, 60)")).toOption.isSome = true := by
    decide +kernel
  obtain ⟨built, found⟩ := Option.isSome_iff_exists.mp built
  exact ⟨checked, by decide +kernel, strategyFails checked,
    strategyPasses ⟨built, eq_ok_of_toOption found⟩,
    periodPasses.mp (eq_ok_of_toBool (by decide +kernel)), by decide +kernel,
    screenFails (eq_ok_of_toBool (by decide +kernel)) none none⟩

end Config

end DailySignals
