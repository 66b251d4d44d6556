import DailySignals.Calendar.Text

/-!
# Command-line arguments

An invocation is a command with its options; two options about logging may
stand before or behind the command.  An option's value follows as the next
word, or is attached to it.  A value that follows is settled only when the next
option, or the end, is reached: a mistake met before that comes first.
-/

set_option autoImplicit false

namespace DailySignals

/-- Why arguments make no invocation.  Asking for help is one reason. -/
inductive UsageFault where
  | helpRequested
  | nothingGiven
  | missingSubcommand
  | unknownSubcommand
  | unknownArgument
  | missingArgument
  | refusedValue
  | unreadableValue
  | unwantedValue
  | repeatedArgument
  deriving DecidableEq, Repr

namespace UsageFault

def exitCode : UsageFault → Nat
  | helpRequested => 0
  | _ => 2

end UsageFault

inductive LogFormat where
  | pretty
  | json
  deriving DecidableEq, Repr

namespace LogFormat

def choices : List (String × LogFormat) :=
  [("pretty", pretty), ("json", json)]

end LogFormat

inductive Command where
  | backtest (config : String) (strategy output : Option String)
  | screen (config : String) (date : Option Date) (preset : Option String)
  | forward (config : String) (strategy : Option String)
  | runOnce (config : String) (strategy : Option String) (environment : String)
      (date : Option Date)
  | validate (strategy : String)

structure Invocation where
  logLevel : String
  logFormat : LogFormat
  command : Command

namespace Arguments

inductive OptionName where
  | logLevel
  | logFormat
  | config
  | strategy
  | output
  | date
  | preset
  | environment
  deriving DecidableEq, Repr

namespace OptionName

def long : OptionName → String
  | logLevel => "log-level"
  | logFormat => "log-format"
  | config => "config"
  | strategy => "strategy"
  | output => "output"
  | date => "date"
  | preset => "preset"
  | environment => "env"

def short? : OptionName → Option Char
  | config => some 'c'
  | strategy => some 's'
  | output => some 'o'
  | _ => none

/-- Whether an option can have a value.  Paths may not be empty. -/
def checkValue (name : OptionName) (value : String) : Except UsageFault Unit :=
  match name with
  | config | strategy | output => if value.isEmpty then .error .refusedValue else .ok ()
  | logFormat =>
      if (LogFormat.choices.lookup value).isSome then .ok () else .error .refusedValue
  | date => if (Date.readLoose? value).isSome then .ok () else .error .unreadableValue
  | logLevel | preset | environment => .ok ()

end OptionName

/-- The options that may stand anywhere. -/
def globalOptions : List OptionName :=
  [.logLevel, .logFormat]

inductive CommandName where
  | backtest
  | screen
  | forward
  | runOnce
  | validate
  deriving DecidableEq, Repr

namespace CommandName

def words : List (String × CommandName) :=
  [("backtest", backtest), ("screen", screen), ("forward", forward), ("run-once", runOnce),
    ("validate", validate)]

def ownOptions : CommandName → List OptionName
  | backtest => [.config, .strategy, .output]
  | screen => [.config, .date, .preset]
  | forward => [.config, .strategy]
  | runOnce => [.config, .strategy, .environment, .date]
  | validate => [.strategy]

def requiredOptions : CommandName → List OptionName
  | backtest | screen | forward => [.config]
  | runOnce => [.config, .environment]
  | validate => [.strategy]

end CommandName

/-- What has been read of the options of one level. -/
structure Level where
  given : List (OptionName × String)
  /-- The option last named, and the value that followed it so far. -/
  pending : Option (OptionName × Option String)
  /-- Whether the mark that ends the options has been passed. -/
  ended : Bool

namespace Level

def start : Level :=
  ⟨[], none, false⟩

/-- The level with the value of an option settled. -/
def settle (level : Level) (name : OptionName) (value : String) : Except UsageFault Level := do
  if (level.given.lookup name).isSome then throw .repeatedArgument
  name.checkValue value
  return { level with given := level.given ++ [(name, value)] }

/-- The level with nothing pending. -/
def resolve (level : Level) : Except UsageFault Level :=
  match level.pending with
  | none => .ok level
  | some (_, none) => .error .refusedValue
  | some (name, some value) => { level with pending := none }.settle name value

/-- The level after an option was named, perhaps with a value attached. -/
def name (level : Level) (option : OptionName) (attached : Option String) :
    Except UsageFault Level := do
  let level ← level.resolve
  match attached with
  | some value => level.settle option value
  | none => return { level with pending := some (option, none) }

def help (level : Level) : Except UsageFault Level := do
  let _ ← level.resolve
  throw .helpRequested

end Level

/-- A word behind two hyphens: an option, perhaps with a value behind an equals sign. -/
def longOption (options : List OptionName) (level : Level) (word : List Char) :
    Except UsageFault Level :=
  let called := String.ofList (word.takeWhile (· != '='))
  let attached := match word.dropWhile (· != '=') with
    | [] => none
    | _ :: value => some (String.ofList value)
  if called = "help" then
    if attached.isSome then .error .unwantedValue else level.help
  else
    match options.find? fun option => option.long == called with
    | some option => level.name option attached
    | none => .error .unknownArgument

/-- A word behind one hyphen: the letter of an option, perhaps with its value. -/
def shortOption (options : List OptionName) (level : Level) (letter : Char)
    (rest : List Char) : Except UsageFault Level :=
  if letter = 'h' then level.help
  else
    match options.find? fun option => option.short? == some letter with
    | none => .error .unknownArgument
    | some option =>
        match rest with
        | [] => level.name option none
        | '=' :: value => level.name option (some (String.ofList value))
        | value => level.name option (some (String.ofList value))

/-- What a word is, before it is known whether it is the value of an option. -/
inductive Word where
  | ending
  | long (text : List Char)
  | short (letter : Char) (rest : List Char)
  | plain

def classify (word : String) : Word :=
  match word.toList with
  | ['-', '-'] => .ending
  | '-' :: '-' :: rest => .long rest
  | '-' :: letter :: rest => .short letter rest
  | _ => .plain

/-- Whether a word is wanted as the value of the option before it. -/
def Level.awaitsValue (level : Level) : Bool :=
  match level.pending with
  | some (_, none) => true
  | _ => false

/-- A word that is no command: an option, the value of one, or the ending
mark; `stray` is the fault of any other. -/
def Level.step (options : List OptionName) (stray : UsageFault) (level : Level)
    (word : String) : Except UsageFault Level :=
  if level.ended then .error stray
  else
    match classify word with
    | .ending => .ok { level with ended := true }
    | .long text => longOption options level text
    | .short letter rest => shortOption options level letter rest
    | .plain =>
        match level.pending with
        | some (name, none) => .ok { level with pending := some (name, some word) }
        | _ => .error stray

/-- The options of a command. -/
def commandLevel (command : CommandName) (words : List String) : Except UsageFault Level := do
  let options := command.ownOptions ++ globalOptions
  let level ← words.foldlM (Level.step options .unknownArgument) Level.start
  let level ← level.resolve
  if command.requiredOptions.all fun name => (level.given.lookup name).isSome then return level
  else throw .missingArgument

/-- The words behind `help` may name one command. -/
def helpFor : List String → UsageFault
  | [] | ["help"] => .helpRequested
  | [word] =>
      if (CommandName.words.lookup word).isSome then .helpRequested else .unknownSubcommand
  | _ => .unknownSubcommand

/-- A stray word in front of the command.  Behind the ending mark the name of
a command is taken for a misplaced argument. -/
def strayFault (level : Level) (word : String) : UsageFault :=
  if level.ended && (word = "help" || (CommandName.words.lookup word).isSome) then
    .unknownArgument
  else .unknownSubcommand

/-- The options in front of the command, the command and its options. -/
def levels (level : Level) : List String → Except UsageFault (Level × CommandName × Level)
  | [] => do
      let level ← level.resolve
      throw (if level.given.isEmpty then .nothingGiven else .missingSubcommand)
  | word :: rest => do
      if !level.ended && !level.awaitsValue then
        if word = "help" then throw (helpFor rest)
        if let some command := CommandName.words.lookup word then
          let inner ← commandLevel command rest
          let outer ← level.resolve
          return (outer, command, inner)
      levels (← level.step globalOptions (strayFault level word) word) rest

/-- The command with the values of its options. -/
def command? (name : CommandName) (given : OptionName → Option String) : Option Command := do
  let date := (given .date).bind Date.readLoose?
  match name with
  | .backtest => return .backtest (← given .config) (given .strategy) (given .output)
  | .screen => return .screen (← given .config) date (given .preset)
  | .forward => return .forward (← given .config) (given .strategy)
  | .runOnce =>
      return .runOnce (← given .config) (given .strategy) (← given .environment) date
  | .validate => return .validate (← given .strategy)

/-- The invocation that some words make.  An option behind the command
overrides the same option in front of it. -/
def parse (words : List String) : Except UsageFault Invocation := do
  let (outer, name, inner) ← levels Level.start words
  let given := fun option => (inner.given.lookup option).or (outer.given.lookup option)
  match command? name given with
  | none => throw .missingArgument
  | some command =>
      return {
        logLevel := (given .logLevel).getD "info"
        logFormat := ((given .logFormat).bind fun word => LogFormat.choices.lookup word).getD .pretty
        command := command }

end Arguments

end DailySignals
