import DailySignals.Failure

/-!
# What a command does

A script reads and writes files by path and prints lines, and ends with a
value.  It can be run against the disk or against a directory held in memory.
-/

set_option autoImplicit false

namespace DailySignals

inductive Script (β : Type) where
  | done (value : β)
  | read (path : String) (next : Except FileFault String → Script β)
  | write (path text : String) (next : Except FileFault Unit → Script β)
  /-- A text for the error output. -/
  | notice (text : String) (next : Script β)
  /-- A text for the standard output. -/
  | result (text : String) (next : Script β)

namespace Script

def bind {β γ : Type} (first : Script β) (next : β → Script γ) : Script γ :=
  match first with
  | done value => next value
  | read path rest => read path fun found => (rest found).bind next
  | write path text rest => write path text fun written => (rest written).bind next
  | notice text rest => notice text (rest.bind next)
  | result text rest => result text (rest.bind next)

instance : Monad Script where
  pure := done
  bind := bind

end Script

/-- A script that may fail. -/
abbrev Session (β : Type) :=
  ExceptT (Failure Float) Script β

namespace Session

def notice (line : String) : Session Unit :=
  ExceptT.lift (.notice (line ++ "\n") (.done ()))

def result (line : String) : Session Unit :=
  ExceptT.lift (.result (line ++ "\n") (.done ()))

def readFile (path : String) : Session (Except FileFault String) :=
  ExceptT.lift (.read path .done)

/-- Writes a file, or fails with the path. -/
def writeFile (path text : String) : Session Unit := do
  match ← ExceptT.lift (.write path text .done) with
  | .ok () => return ()
  | .error fault => throw (.data (.unwritable path fault))

end Session

end DailySignals
