/-!
# Sets of characters given by ranges
-/

set_option autoImplicit false

namespace DailySignals

namespace Text

/-- Whether a character's code point lies in one of the closed ranges. -/
def inRanges (ranges : List (Nat × Nat)) (c : Char) : Bool :=
  ranges.any fun (first, last) => first ≤ c.toNat && c.toNat ≤ last

end Text

end DailySignals
