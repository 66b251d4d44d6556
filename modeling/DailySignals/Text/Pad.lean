/-!
# Columns

A cell is filled up with spaces to the width of its column, counted in
characters.  A cell that is too long is left whole.
-/

set_option autoImplicit false

namespace DailySignals

namespace Text

def spaces (n : Nat) : String :=
  String.ofList (List.replicate n ' ')

/-- The text at the left edge of a column. -/
def padRight (width : Nat) (text : String) : String :=
  text ++ spaces (width - text.length)

/-- The text at the right edge of a column. -/
def padLeft (width : Nat) (text : String) : String :=
  spaces (width - text.length) ++ text

end Text

end DailySignals
