/-!
# JSON values

The syntax of a JSON text as a tree.  A number is kept as it was written, so
that each reader of it decides what it may be; an object keeps its members in
order and with repetitions.
-/

set_option autoImplicit false

namespace DailySignals

/-- A JSON text.  The content of a string is absent where its escapes leave
half of a surrogate pair, which is no text. -/
inductive Json where
  | null
  | bool (value : Bool)
  | number (literal : String)
  | string (content : Option String)
  | array (elements : List Json)
  | object (members : List (Option String × Json))

end DailySignals
