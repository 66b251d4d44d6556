import DailySignals.Json.Value
import DailySignals.Decimal.Layout

/-!
# Writing JSON

Values are written on one line without blanks.  In strings only quotes,
backslashes and control characters are escaped.
-/

set_option autoImplicit false

namespace DailySignals

namespace Json

def hexDigits (width n : Nat) : List Char :=
  let digits := Nat.toDigits 16 n
  List.replicate (width - digits.length) '0' ++ digits

/-- How a character is written inside a string. -/
def escape (c : Char) : List Char :=
  if c = '"' then ['\\', '"']
  else if c = '\\' then ['\\', '\\']
  else if c = '\x08' then ['\\', 'b']
  else if c = '\x0c' then ['\\', 'f']
  else if c = '\n' then ['\\', 'n']
  else if c = '\r' then ['\\', 'r']
  else if c = '\t' then ['\\', 't']
  else if c.toNat < 0x20 then '\\' :: 'u' :: hexDigits 4 c.toNat
  else [c]

def quoted (text : String) : String :=
  String.ofList ('"' :: (text.toList.flatMap escape ++ ['"']))

mutual

def write : Json → String
  | null => "null"
  | bool value => if value then "true" else "false"
  | number literal => literal
  | string content => quoted (content.getD "")
  | array elements => "[" ++ ",".intercalate (writeAll elements) ++ "]"
  | object members => "\x7b" ++ ",".intercalate (writeMembers members) ++ "\x7d"

def writeAll : List Json → List String
  | [] => []
  | json :: rest => write json :: writeAll rest

def writeMembers : List (Option String × Json) → List String
  | [] => []
  | (key, json) :: rest => (quoted (key.getD "") ++ ":" ++ write json) :: writeMembers rest

end

def ofString (text : String) : Json :=
  string (some text)

def ofInt (n : Int) : Json :=
  number (toString n)

def ofNat (n : Nat) : Json :=
  ofInt n

/-- A double; JSON has no form for infinities and not-a-number, which become null. -/
def ofFloat (x : Float) : Json :=
  if x.isFinite then number (Layout.record.write x) else null

def ofOption {β : Type} (write : β → Json) : Option β → Json
  | none => null
  | some value => write value

/-- An object with the given members in order. -/
def record (members : List (String × Json)) : Json :=
  object (members.map fun (key, value) => (some key, value))

end Json

end DailySignals
