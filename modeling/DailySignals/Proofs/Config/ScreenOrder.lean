import DailySignals.Ini.Document
import DailySignals.Proofs.Config.Agreement

/-!
# The order that a configuration asks for

The rows of a screen are ordered by a field and in a direction, and there is a key
for each.  The field is followed.  The direction is not checked: a word that is no
truth value counts as no direction, and where no field is named the direction is
not read.  So the keys are honoured exactly if the direction says a truth value, and
a field is named where it says upwards.
-/

set_option autoImplicit false

namespace DailySignals

namespace Settings

/-- The words for a truth value. -/
def truthWords : Bool → List String
  | true => ["true", "yes", "1"]
  | false => ["false", "no", "0"]

/-- A text is one of the words for a truth value, in any case of its letters. -/
def SaysTruth (text : String) (truth : Bool) : Prop :=
  Text.lowercase text ∈ truthWords truth

instance (text : String) (truth : Bool) : Decidable (SaysTruth text truth) :=
  inferInstanceAs (Decidable (_ ∈ _))

theorem truth?_eq_some_iff {text : String} {truth : Bool} :
    truth? text = some truth ↔ SaysTruth (Text.trim text) truth := by
  unfold truth? SaysTruth
  generalize Text.lowercase (Text.trim text) = word
  have apart : ∀ word ∈ truthWords false, word ∉ truthWords true := by decide
  have yes : (word = "true" ∨ word = "yes" ∨ word = "1") ↔ word ∈ truthWords true := by
    simp [truthWords]
  have no : (word = "false" ∨ word = "no" ∨ word = "0") ↔ word ∈ truthWords false := by
    simp [truthWords]
  simp only [yes, no]
  cases truth with
  | true => by_cases isTrue : word ∈ truthWords true <;> simp [isTrue]
  | false =>
      by_cases isFalse : word ∈ truthWords false
      · simp [isFalse, apart word isFalse]
      · simp [isFalse]

theorem SaysTruth.unique {text : String} {truth other : Bool} (meant : SaysTruth text truth)
    (meantOther : SaysTruth text other) : truth = other := by
  have apart : ∀ truth other, ∀ word ∈ truthWords truth, word ∈ truthWords other →
      truth = other := by
    decide
  exact apart _ _ _ meant meantOther

variable {settings : Settings} {group key : String}

/-- A truth value that is taken for true unless it is read is false exactly if the
text says so. -/
theorem boolOr_eq_false_iff :
    settings.boolOr group key true = false ↔
      ∃ text, settings.text? group key = some text ∧ SaysTruth text false := by
  unfold boolOr text?
  cases settings.value? group key with
  | none => simp
  | some value =>
      have blank : ¬ SaysTruth "" false := by decide
      rw [Option.bind_some, Option.map_some]
      constructor
      · intro isFalse
        have meant : SaysTruth (Text.trim value) false := by
          cases read : truth? value with
          | none => rw [read] at isFalse; cases isFalse
          | some truth =>
              rw [read, Option.getD_some] at isFalse
              rw [isFalse] at read
              exact truth?_eq_some_iff.mp read
        refine ⟨Text.trim value, Option.filter_eq_some_iff.mpr ⟨rfl, ?_⟩, meant⟩
        rw [Bool.not_eq_true', String.isEmpty_eq_false_iff]
        intro empty
        exact blank (empty ▸ meant)
      · rintro ⟨text, written, meant⟩
        obtain ⟨trimmed, _⟩ := Option.filter_eq_some_iff.mp written
        cases trimmed
        rw [truth?_eq_some_iff.mpr meant, Option.getD_some]

end Settings

namespace Config

variable {settings : Settings} {group key : String}

/-! ## What a screen is refused for -/

/-- Failures of the text of a key. -/
inductive Names (group key : String) : Failure Float → Prop
  | missing : Names group key (.missingKey group key)
  | bad (reason : String) : Names group key (.badValue group key reason)

theorem optional_failsOnly {β : Type} {read : String → Option β} :
    FailsOnly (Names group key) (settings.optional read group key) := by
  unfold Settings.optional
  split
  · exact .of_ok rfl
  · split
    · exact .of_ok rfl
    · exact .of_error rfl (.bad _)

theorem date?_failsOnly : FailsOnly (Names group key) (settings.date? group key) := by
  unfold Settings.date?
  cases written : settings.text? group key with
  | none => exact .of_ok rfl
  | some text =>
      have required := Settings.require_eq_ok.mpr written
      dsimp only
      rw [Settings.date, bind_of_ok required]
      cases Date.readStrict? text with
      | some date => exact .of_ok rfl
      | none => exact .of_error rfl (.bad _)

/-- The keys that a screen can be refused for. -/
def screenKeys : List String :=
  ["date", "offset", "limit", "streak_days", "preset"]

/-- Failures of one of the keys of a screen. -/
def NamesScreenKey (fault : Failure Float) : Prop :=
  ∃ key ∈ screenKeys, Names "screener" key fault

theorem namesScreenKey_of {β : Type} {read : Checked β} (listed : key ∈ screenKeys)
    (fails : FailsOnly (Names "screener" key) read) : FailsOnly NamesScreenKey read :=
  fails.mono fun _ names => ⟨key, listed, names⟩

theorem checkScreener_namesKey : FailsOnly NamesScreenKey (checkScreener settings) := by
  unfold checkScreener
  refine (namesScreenKey_of (by decide) date?_failsOnly).bind fun _ _ => ?_
  refine (namesScreenKey_of (by decide) optional_failsOnly).bind fun _ _ => ?_
  refine (namesScreenKey_of (by decide) optional_failsOnly).bind fun _ _ => ?_
  exact (namesScreenKey_of (by decide) optional_failsOnly).bind fun _ _ => .of_ok rfl

theorem screenDate_namesKey (givenDate : Option Date) :
    FailsOnly NamesScreenKey (screenDate settings givenDate) := by
  unfold screenDate
  cases givenDate with
  | some date => exact .of_ok rfl
  | none =>
      refine (namesScreenKey_of (by decide) date?_failsOnly).bind fun found _ => ?_
      cases found with
      | some date => exact .of_ok rfl
      | none => exact .of_error rfl ⟨"date", by decide, .missing⟩

/-- A screen is refused for one of its keys, or for conditions that do not parse. -/
theorem screen_namesKey (givenDate : Option Date) (givenPreset : Option String) :
    FailsOnly (fun fault => NamesScreenKey fault ∨ IsUnparsed fault)
      (screen settings givenDate givenPreset) := by
  have count (key : String) (listed : key ∈ screenKeys) :
      FailsOnly (fun fault => NamesScreenKey fault ∨ IsUnparsed fault)
        (settings.count64? "screener" key) :=
    (namesScreenKey_of listed optional_failsOnly).mono fun _ => .inl
  unfold screen
  refine ((screenDate_namesKey givenDate).mono fun _ => .inl).bind fun date _ => ?_
  refine (count "offset" (by decide)).bind fun offset _ => ?_
  refine (count "limit" (by decide)).bind fun limit _ => ?_
  refine (count "streak_days" (by decide)).bind fun days _ => ?_
  dsimp only
  split
  · split
    · exact .of_ok rfl
    · exact .of_error rfl (.inl ⟨"preset", by decide, .bad _⟩)
  · split
    · exact (parsed_failsOnly.mono fun _ => .inr).bind fun _ _ => .of_ok rfl
    · exact .of_ok rfl

/-- A result that is refused for its direction. -/
def RefusedForDirection {β : Type} (computed : Checked β) : Prop :=
  ∃ reason, computed = .error (.badValue "screener" "desc" reason)

theorem not_namesScreenKey_direction (reason : String) :
    ¬ NamesScreenKey (.badValue "screener" "desc" reason) := by
  rintro ⟨_, listed, ⟨⟩⟩
  revert listed
  decide

theorem checkScreener_ignores_direction : ¬ RefusedForDirection (checkScreener settings) := by
  rintro ⟨reason, failed⟩
  exact not_namesScreenKey_direction reason (checkScreener_namesKey _ failed)

theorem screen_ignores_direction (givenDate : Option Date) (givenPreset : Option String) :
    ¬ RefusedForDirection (screen settings givenDate givenPreset) := by
  rintro ⟨reason, failed⟩
  rcases screen_namesKey givenDate givenPreset _ failed with names | unparsed
  · exact not_namesScreenKey_direction reason names
  · cases unparsed

/-! ## The order of a screen -/

theorem order_of_screen {givenDate : Option Date} {request : ScreenRequest}
    (custom : settings.text? "screener" "preset" = none)
    (built : screen settings givenDate none = .ok request) :
    request.order = screenOrder settings := by
  unfold screen at built
  obtain ⟨date, _, built⟩ := bind_eq_ok.mp built
  obtain ⟨offset, _, built⟩ := bind_eq_ok.mp built
  obtain ⟨limit, _, built⟩ := bind_eq_ok.mp built
  obtain ⟨days, _, built⟩ := bind_eq_ok.mp built
  rw [custom] at built
  dsimp only [Option.or] at built
  split at built
  · obtain ⟨conditions, _, built⟩ := bind_eq_ok.mp built
    cases built
    rfl
  · cases built
    rfl

/-- The field that the keys of a screen name, the score where they name none. -/
def namedField (settings : Settings) : Field :=
  ((settings.text? "screener" "sort").map Field.ofName).getD .score

theorem screenOrder_field : (screenOrder settings).field = namedField settings := by
  unfold screenOrder namedField
  cases settings.text? "screener" "sort" with
  | none => rw [Option.map_none, Option.getD_none, SortOrder.default]
  | some name => rw [Option.map_some, Option.getD_some]

/-- The rows come upwards exactly if a field is named and the direction says so. -/
theorem screenOrder_upwards_iff :
    (screenOrder settings).descending = false ↔
      settings.text? "screener" "sort" ≠ none ∧
        ∃ text, settings.text? "screener" "desc" = some text ∧
          Settings.SaysTruth text false := by
  rw [← Settings.boolOr_eq_false_iff]
  unfold screenOrder
  cases settings.text? "screener" "sort" with
  | none => simp [SortOrder.default]
  | some name => simp

/-- An order is the one that the keys of a screen describe: by the named field, in
the written direction, and downwards where none is written. -/
structure OrderDescribed (settings : Settings) (order : SortOrder) : Prop where
  field : order.field = namedField settings
  written : ∀ text, settings.text? "screener" "desc" = some text →
    Settings.SaysTruth text order.descending
  unwritten : settings.text? "screener" "desc" = none → order.descending = true

/-- The keys of the order are honoured: what is accepted has the order they describe,
and a direction that is no truth value is refused. -/
structure OrderHonoured (settings : Settings) (givenDate : Option Date) : Prop where
  followed : ∀ request, checkScreener settings = .ok () →
    screen settings givenDate none = .ok request → OrderDescribed settings request.order
  refused : ∀ text, settings.text? "screener" "desc" = some text →
    (∀ truth, ¬ Settings.SaysTruth text truth) →
      RefusedForDirection (checkScreener settings) ∨
        RefusedForDirection (screen settings givenDate none)

theorem OrderHonoured.inDirection {givenDate : Option Date} {text : String} {request : ScreenRequest}
    (honoured : OrderHonoured settings givenDate)
    (written : settings.text? "screener" "desc" = some text)
    (checked : checkScreener settings = .ok ())
    (built : screen settings givenDate none = .ok request) :
    Settings.SaysTruth text request.order.descending :=
  (honoured.followed request checked built).written text written

/-- The order of a screen is the described one if the written direction, where there
is one, says a truth value, and upwards only beside a named field. -/
theorem orderDescribed_screenOrder
    (usable : ∀ text, settings.text? "screener" "desc" = some text →
      ∃ truth, Settings.SaysTruth text truth ∧
        (truth = false → settings.text? "screener" "sort" ≠ none)) :
    OrderDescribed settings (screenOrder settings) where
  field := screenOrder_field
  written := by
    intro text written
    obtain ⟨truth, meant, beside⟩ := usable text written
    cases direction : (screenOrder settings).descending with
    | true =>
        cases truth with
        | true => exact meant
        | false =>
            have upwards := screenOrder_upwards_iff.mpr ⟨beside rfl, text, written, meant⟩
            rw [direction] at upwards
            cases upwards
    | false =>
        obtain ⟨_, other, sameText, meantFalse⟩ := screenOrder_upwards_iff.mp direction
        cases written.symm.trans sameText
        exact meantFalse
  unwritten := by
    intro unwritten
    cases direction : (screenOrder settings).descending with
    | true => rfl
    | false =>
        obtain ⟨_, text, written, _⟩ := screenOrder_upwards_iff.mp direction
        cases unwritten.symm.trans written

/-- A screen that is no preset is ordered by the named field, and upwards exactly if a
field is named and the direction says so.  Its keys are honoured exactly if the
direction, where it is written, says a truth value, and no accepted screen has the
direction upwards without a field. -/
theorem order_honoured_iff (settings : Settings) (givenDate : Option Date)
    (custom : settings.text? "screener" "preset" = none) :
    (∀ request, screen settings givenDate none = .ok request →
      request.order.field = namedField settings ∧
        (request.order.descending = false ↔
          settings.text? "screener" "sort" ≠ none ∧
            ∃ text, settings.text? "screener" "desc" = some text ∧
              Settings.SaysTruth text false)) ∧
      (OrderHonoured settings givenDate ↔
        ∀ text, settings.text? "screener" "desc" = some text →
          (∃ truth, Settings.SaysTruth text truth) ∧
            ∀ request, checkScreener settings = .ok () →
              screen settings givenDate none = .ok request →
              Settings.SaysTruth text false → settings.text? "screener" "sort" ≠ none) := by
  refine ⟨?_, ?_, ?_⟩
  · intro request built
    rw [order_of_screen custom built]
    exact ⟨screenOrder_field, screenOrder_upwards_iff⟩
  · intro honoured text written
    refine ⟨?_, ?_⟩
    · by_cases meant : ∃ truth, Settings.SaysTruth text truth
      · exact meant
      · rcases honoured.refused text written (not_exists.mp meant) with refused | refused
        · exact absurd refused checkScreener_ignores_direction
        · exact absurd refused (screen_ignores_direction givenDate none)
    · intro request checked built upwards
      have meant := honoured.inDirection written checked built
      rw [order_of_screen custom built] at meant
      exact (screenOrder_upwards_iff.mp (meant.unique upwards)).1
  · intro usable
    constructor
    · intro request checked built
      rw [order_of_screen custom built]
      apply orderDescribed_screenOrder
      intro text written
      obtain ⟨⟨truth, meant⟩, beside⟩ := usable text written
      exact ⟨truth, meant, fun upwards => beside request checked built (upwards ▸ meant)⟩
    · intro text written nothing
      obtain ⟨⟨truth, meant⟩, _⟩ := usable text written
      exact absurd meant (nothing truth)

/-- Upwards by a named field, both written in other cases and with a remark. -/
theorem order_honoured_iff_upwards :
    ∃ ini, Ini.parse "[Screener]\ndate = 2024-01-02\nSORT = Close ; by price\ndesc = NO" =
        .ok ini ∧
      ini.settings.text? "screener" "preset" = none ∧ OrderHonoured ini.settings none ∧
      ∃ request, checkScreener ini.settings = .ok () ∧
        screen ini.settings none none = .ok request ∧ request.order = ⟨.close, false⟩ := by
  let ini : Ini := ⟨[⟨"screener", "date", some "2024-01-02"⟩, ⟨"screener", "sort", some "Close"⟩,
    ⟨"screener", "desc", some "NO"⟩]⟩
  have custom : ini.settings.text? "screener" "preset" = none := by decide +kernel
  have field : ini.settings.text? "screener" "sort" = some "Close" := by decide +kernel
  have direction : ini.settings.text? "screener" "desc" = some "NO" := by decide +kernel
  have order : ((screen ini.settings none none).toOption.map (·.order)) =
      some ⟨.close, false⟩ := by decide +kernel
  obtain ⟨request, found, ordered⟩ := Option.map_eq_some_iff.mp order
  refine ⟨ini, eq_ok_of_toOption (by decide +kernel), custom, (order_honoured_iff ini.settings none custom).2.mpr ?_,
    request, eq_ok_of_toBool (by decide +kernel), eq_ok_of_toOption found, ordered⟩
  intro text written
  rw [direction] at written
  cases written
  refine ⟨⟨false, by decide +kernel⟩, ?_⟩
  intro _ _ _ _ unnamed
  rw [field] at unnamed
  cases unnamed

/-- An accepted screen whose order is not in the written direction. -/
theorem not_honoured_of_order {text : String} {order : SortOrder}
    (written : settings.text? "screener" "desc" = some text)
    (checked : checkScreener settings = .ok ())
    (found : (screen settings none none).toOption.map (·.order) = some order)
    (differs : ¬ Settings.SaysTruth text order.descending) :
    (∃ request, checkScreener settings = .ok () ∧ screen settings none none = .ok request ∧
      request.order = order) ∧ ¬ OrderHonoured settings none := by
  obtain ⟨request, given, rfl⟩ := Option.map_eq_some_iff.mp found
  have built := eq_ok_of_toOption given
  refine ⟨⟨request, checked, built, rfl⟩, ?_⟩
  intro honoured
  exact differs (honoured.inDirection written checked built)

/-- The direction upwards is not read without a field, and a word that is no truth
value passes for downwards. -/
theorem direction_not_honoured :
    (∃ ini, Ini.parse "[screener]\ndate = 2024-01-02\ndesc = false" = .ok ini ∧
      ini.settings.text? "screener" "preset" = none ∧
      ini.settings.text? "screener" "desc" = some "false" ∧
      (∃ request, checkScreener ini.settings = .ok () ∧
        screen ini.settings none none = .ok request ∧ request.order = ⟨.score, true⟩) ∧
      ¬ OrderHonoured ini.settings none) ∧
      ∃ ini, Ini.parse "[screener]\ndate = 2024-01-02\nsort = close\ndesc = maybe" = .ok ini ∧
        ini.settings.text? "screener" "preset" = none ∧
        ini.settings.text? "screener" "desc" = some "maybe" ∧
        (∃ request, checkScreener ini.settings = .ok () ∧
          screen ini.settings none none = .ok request ∧ request.order = ⟨.close, true⟩) ∧
        ¬ OrderHonoured ini.settings none := by
  constructor
  · let ini : Ini := ⟨[⟨"screener", "date", some "2024-01-02"⟩,
      ⟨"screener", "desc", some "false"⟩]⟩
    have direction : ini.settings.text? "screener" "desc" = some "false" := by decide +kernel
    refine ⟨ini, eq_ok_of_toOption (by decide +kernel), by decide +kernel, direction, ?_⟩
    exact not_honoured_of_order direction (eq_ok_of_toBool (by decide +kernel))
      (by decide +kernel) (by decide +kernel)
  · let ini : Ini := ⟨[⟨"screener", "date", some "2024-01-02"⟩, ⟨"screener", "sort", some "close"⟩,
      ⟨"screener", "desc", some "maybe"⟩]⟩
    have direction : ini.settings.text? "screener" "desc" = some "maybe" := by decide +kernel
    refine ⟨ini, eq_ok_of_toOption (by decide +kernel), by decide +kernel, direction, ?_⟩
    exact not_honoured_of_order direction (eq_ok_of_toBool (by decide +kernel))
      (by decide +kernel) (by decide +kernel)

end Config

end DailySignals
