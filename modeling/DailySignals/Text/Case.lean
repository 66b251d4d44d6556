/-!
# Letter case of ASCII names

Names of tags, fields and modes are matched without regard to the case of the
ASCII letters; all other characters must agree exactly.
-/

set_option autoImplicit false

namespace DailySignals

namespace Text

/-- A text with its ASCII letters in lower case. -/
def asciiLower (text : String) : String :=
  String.ofList (text.toList.map Char.toLower)

/-- Whether two texts agree up to the case of ASCII letters. -/
def sameName (left right : String) : Bool :=
  asciiLower left == asciiLower right

end Text

end DailySignals
