import DailySignals.CommandLine.Commands
import Std.Time.Format

/-!
# The program

Runs the command that the arguments name against the disk.  Nothing here
decides what a command does.
-/

set_option autoImplicit false

namespace DailySignals

namespace Program

/-- What a step against the disk gave.  Faults that no script knows of end the
program. -/
def attempt {β : Type} (step : IO β) : IO (Except FileFault β) := do
  try
    return .ok (← step)
  catch fault =>
    match fault with
    | .noFileOrDirectory .. => return .error .missing
    | .inappropriateType _ code _ =>
        return .error (if code = 21 then .isDirectory else .notDirectory)
    | other => throw other

/-- Runs a script against the disk. -/
def perform {β : Type} : Script β → IO β
  | .done value => return value
  | .read path next => do
      let found ← attempt (IO.FS.readFile path)
      perform (next found)
  | .write path text next => do
      let written ← attempt (IO.FS.writeFile path text)
      perform (next written)
  | .notice text next => do
      (← IO.getStderr).putStr text
      perform next
  | .result text next => do
      (← IO.getStdout).putStr text
      perform next

/-- Today in the local time zone; the last day of the calendar, should the
clock be beyond it. -/
def today : IO Date := do
  let now ← Std.Time.PlainDate.now
  return (Date.ofCivil? ⟨now.year.toInt, now.month.toNat, now.day.toNat⟩).getD Date.last

def usage : String :=
  "usage: [--log-level LEVEL] [--log-format pretty|json] COMMAND\n\n" ++
  "commands:\n" ++
  "  backtest -c FILE [-s FILE] [-o FILE]\n" ++
  "  screen -c FILE [--date DATE] [--preset NAME]\n" ++
  "  forward -c FILE [-s FILE]\n" ++
  "  run-once -c FILE [-s FILE] --env NAME [--date DATE]\n" ++
  "  validate -s FILE\n"

end Program

end DailySignals

open DailySignals in
def main (words : List String) : IO UInt32 := do
  match Arguments.parse words with
  | .error fault =>
      let stream ← if fault = .helpRequested then IO.getStdout else IO.getStderr
      stream.putStr Program.usage
      return fault.exitCode.toUInt32
  | .ok invocation =>
      let code ← Program.perform (Commands.script (← Program.today) invocation.command)
      return code.toUInt32
