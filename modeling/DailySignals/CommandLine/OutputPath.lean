import DailySignals.Store.Files

/-!
# Where results are written

The equity curve is written next to the trades, under the name of their file
with `_equity.csv` in place of the extension.
-/

set_option autoImplicit false

namespace DailySignals

namespace OutputPath

/-- Whether a part of a path, not its first, stands for nothing. -/
def isVoid (part : String) : Bool :=
  part = "" || part = "."

/-- The parts of a path up to the last that stands for something; the first
part always does. -/
def dropVoid (parts : List String) : List String :=
  match parts with
  | [] => []
  | first :: rest => first :: (rest.reverse.dropWhile isVoid).reverse

/-- The directory and the name of the file that a path ends in, if it ends in one. -/
def split? (path : String) : Option (String × String) :=
  let parts := dropVoid ((path.toList.splitOn '/').map String.ofList)
  match parts.getLast? with
  | none => none
  | some name =>
      if name = "" ∨ name = "." ∨ name = ".." then none
      else
        let directory := match dropVoid parts.dropLast with
          | [""] => "/"
          | parts => "/".intercalate parts
        some (directory, name)

/-- A file name without its extension.  A point at the very beginning is part
of the name. -/
def stem (name : String) : String :=
  match name.toList.reverse.dropWhile (· != '.') with
  | [] | ['.'] => name
  | _ :: before => String.ofList before.reverse

def equityCurve (trades : String) : String :=
  match split? trades with
  | some (directory, name) => joinPath directory (stem name ++ "_equity.csv")
  | none => joinPath trades "trades_equity.csv"

end OutputPath

end DailySignals
